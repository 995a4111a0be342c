import LuksEnroll.Confirmed
import LuksEnroll.DetailPage
import LuksEnroll.Mounts
import LuksEnroll.UnlockDialog

/-!
# The mapping controls

An unlocked detail page has a button that opens or closes the mapping of its volume.  The page looks at
`/dev/mapper` when the data of the volume arrive, when an operation has ended and every two seconds, and
labels the button after what it found.  Pressing the button does the opposite of what is there by then,
whatever the label says.

While an operation is under way the button cannot be pressed and the poll leaves it alone, but the data
of the volume do not: they come after every enrollment and every wipe, and make the button ready for a
second operation beside the first.  `one_operation_at_a_time` holds as long as they do not come
meanwhile.

The two accounts of the page are structures with a lemma for each event: `Exclusive`, that there is one
thread while the controls are taken, and `Drawn`, that the label tells what was there when it was drawn
and that every click is behind one request.  `clicks_follow_mapping` and `one_operation_at_a_time` are
their run lemmas; `Sends` and `Session` connect the page with the credentials of the dialog and with the
service.
-/

namespace LuksEnroll

open Library

/-! ## The controls

The page with its button, the threads behind it, and what can happen to it.
-/

/-- What the client sees of the mappings: `os.path.exists`, `os.path.realpath` and `/proc/mounts`. -/
structure MapperView where
  present : String → Bool
  realpath : String → Option String
  mounts : Option String

/-- `_mapping_is_mounted`. -/
def MapperView.isMounted (v : MapperView) (mapper : String) : Bool :=
  match v.mounts with
  | none => false
  | some text => mountReferences text mapper (v.realpath mapper)

/-- A thread of `_on_mapping_clicked`: before its call, with what was there at the click, and then until
`_on_mapping_done`. -/
inductive MappingThread : Type
  | working (isOpen : Bool) (name : String)
  | done (ok : Bool) (err : String)

/-- What a thread asks the service for. -/
inductive MappingRequest : Type
  | openVolume (call : OpenCall)
  | closeVolume (device name : String)
  deriving DecidableEq

/-- Whether a thread that has not called yet will close the mapping. -/
def MappingThread.pending : MappingThread → Option Bool
  | MappingThread.working isOpen _ => some isOpen
  | MappingThread.done _ _ => none

/-- Whether a request is to close the mapping. -/
def MappingRequest.closes : MappingRequest → Bool
  | MappingRequest.openVolume _ => false
  | MappingRequest.closeVolume _ _ => true

/-- A name that the page can have derived for its device. -/
def NameFor (python : CharacterClasses) (device name : String) : Prop :=
  ∃ uuid, name = deriveMapperName python device uuid

/-- A request for this device, under a name that was derived for it; to open it, with these
credentials. -/
def MappingRequest.For (python : CharacterClasses) (device : String)
    (creds : String × String × String) : MappingRequest → Prop
  | openVolume call => call.device = device ∧ NameFor python device call.name
      ∧ (call.passphrase, call.unlockMethod, call.unlockPin) = creds
  | closeVolume device' name => device' = device ∧ NameFor python device name

/-- A click: the label of the button, and whether there was a mapping when the controls were last drawn
and when it was pressed. -/
structure MappingClick where
  label : String
  drawn : Bool
  isOpen : Bool
  deriving DecidableEq

/-- A detail page with its mapping controls, and what it sees. -/
structure MappedPage where
  page : DetailPage
  view : MapperView
  mapperName : Option String
  busy : Bool
  /-- There is a `_mapping_poll_id`. -/
  polling : Bool
  visible : Bool
  sensitive : Bool
  spinning : Bool
  label : String
  subtitle : String
  threads : List MappingThread
  /-- The texts of the "Mapping Failed" dialogs. -/
  alerts : List String
  destroyed : Bool
  -- ghosts: what was there when the controls were last drawn, the clicks, and what was asked for
  drawn : Bool
  clicks : List MappingClick
  sent : List MappingRequest

/-- What can happen. -/
inductive MappingEvent : Type
  /-- To the page, where `detailData` comes with the UUID of the device information. -/
  | page (e : PageEvent) (uuid : String)
  /-- Outside the application. -/
  | outside (v : MapperView)
  | poll
  | clicked
  /-- The call of a thread, with its answer or the exception.  What was asked for may then have reached
  the service or not. -/
  | called (i : ℕ) (answer : Except String (Bool × String))
  | done (i : ℕ)
  | destroyed

namespace MappedPage

/-- The controls of a page that is still locked: not drawn, and not in use. -/
def new (device : String) (passphrase : Option String) (volumeKeyCached : Bool) (view : MapperView) :
    MappedPage where
  page := DetailPage.new device passphrase volumeKeyCached
  view := view
  mapperName := none
  busy := false
  polling := false
  visible := false
  sensitive := true
  spinning := false
  label := ""
  subtitle := ""
  threads := []
  alerts := []
  destroyed := false
  drawn := false
  clicks := []
  sent := []

/-- `_refresh_mapping_state`. -/
def refreshMappingState (p : MappedPage) : MappedPage :=
  match p.mapperName with
  | none => { p with visible := false, polling := false }
  | some name =>
      let isOpen := p.view.present name
      { p with
        spinning := false
        sensitive := true
        subtitle :=
          if isOpen then
            if p.view.isMounted (mapperPath name) then "Mounted — unmount before closing"
            else "Open at /dev/mapper/" ++ name
          else "Closed"
        label := if isOpen then "Close" else "Open"
        polling := true
        visible := true
        drawn := isOpen }

/-- The end of `_apply_device_info`. -/
def applyDeviceInfo (python : CharacterClasses) (p : MappedPage) (uuid : String) : MappedPage :=
  refreshMappingState { p with mapperName := some (deriveMapperName python p.page.device uuid) }

/-- Does this event post the data of the volume? -/
def Posts (p : MappedPage) : PageEvent → Bool
  | PageEvent.detailData _ _ => decide (p.page.fetches ≠ 0)
  | _ => false

/-- What happens to the page, and what the controls do after it. -/
def pageEvent (python : CharacterClasses) (p : MappedPage) (e : PageEvent) (uuid : String) : MappedPage :=
  let q := { p with page := p.page.step e }
  if p.Posts e then q.applyDeviceInfo python uuid else q

/-- `_poll_mapping_state`. -/
def pollMappingState (p : MappedPage) : MappedPage :=
  if p.polling && !p.busy then p.refreshMappingState else p

/-- `_on_mapping_clicked`, for a button that is shown and can be pressed. -/
def mappingClicked (p : MappedPage) : MappedPage :=
  match p.mapperName with
  | none => p
  | some name =>
      if p.visible && p.sensitive then
        let isOpen := p.view.present name
        { p with
          busy := true
          sensitive := false
          spinning := true
          threads := p.threads ++ [MappingThread.working isOpen name]
          clicks := p.clicks ++ [⟨p.label, p.drawn, isOpen⟩] }
      else p

/-- What a thread asks for; the credentials are those of the page by now. -/
def request (p : MappedPage) (isOpen : Bool) (name : String) : MappingRequest :=
  if isOpen then MappingRequest.closeVolume p.page.device name
  else MappingRequest.openVolume
    ⟨p.page.device, name, p.page.passphrase.getD "", p.page.unlockMethod, p.page.unlockPin⟩

/-- What `work` posts. -/
def workResult : Except String (Bool × String) → MappingThread
  | Except.ok (ok, err) => MappingThread.done ok err
  | Except.error e => MappingThread.done false e

/-- The call of `work`. -/
def called (p : MappedPage) (i : ℕ) (answer : Except String (Bool × String)) : MappedPage :=
  match p.threads[i]? with
  | some (MappingThread.working isOpen name) =>
      { p with
        threads := p.threads.set i (workResult answer)
        sent := p.sent ++ [p.request isOpen name] }
  | _ => p

/-- `_on_mapping_done`. -/
def mappingDone (p : MappedPage) (i : ℕ) : MappedPage :=
  match p.threads[i]? with
  | some (MappingThread.done ok err) =>
      refreshMappingState { p with
        threads := p.threads.eraseIdx i
        busy := false
        spinning := false
        alerts :=
          if ok then p.alerts
          else p.alerts ++ [if err = "" then "The volume mapping operation failed." else err] }
  | _ => p

/-- One step of the controls. -/
def step (python : CharacterClasses) (p : MappedPage) : MappingEvent → MappedPage
  | MappingEvent.page e uuid => p.pageEvent python e uuid
  | MappingEvent.outside v => { p with view := v }
  | MappingEvent.poll => p.pollMappingState
  | MappingEvent.clicked => p.mappingClicked
  | MappingEvent.called i answer => p.called i answer
  | MappingEvent.done i => p.mappingDone i
  | MappingEvent.destroyed => { p with polling := false, destroyed := true }

/-- The page after a run. -/
def after (python : CharacterClasses) (device : String) (passphrase : Option String)
    (volumeKeyCached : Bool) (view : MapperView) (events : List MappingEvent) : MappedPage :=
  Events.run (step python) (new device passphrase volumeKeyCached view) events

/-! ## What refreshing leaves alone

Refreshing draws the controls and changes nothing else.
-/

section Refresh

variable (p : MappedPage)

@[simp] lemma refresh_page : p.refreshMappingState.page = p.page := by
  unfold refreshMappingState
  split <;> rfl

@[simp] lemma refresh_mapperName : p.refreshMappingState.mapperName = p.mapperName := by
  unfold refreshMappingState
  split <;> rfl

@[simp] lemma refresh_busy : p.refreshMappingState.busy = p.busy := by
  unfold refreshMappingState
  split <;> rfl

@[simp] lemma refresh_threads : p.refreshMappingState.threads = p.threads := by
  unfold refreshMappingState
  split <;> rfl

@[simp] lemma refresh_clicks : p.refreshMappingState.clicks = p.clicks := by
  unfold refreshMappingState
  split <;> rfl

@[simp] lemma refresh_sent : p.refreshMappingState.sent = p.sent := by
  unfold refreshMappingState
  split <;> rfl

end Refresh

/-! ## One operation at a time

While a thread is under way the controls are taken.  Data of the volume that come meanwhile are the
one thing that frees them early.
-/

/-- **The condition on an event**: no data arrive while an operation is under way. -/
def Undisturbed (p : MappedPage) : MappingEvent → Prop
  | MappingEvent.page e _ => p.Posts e = true → p.busy = false
  | _ => True

instance (p : MappedPage) : DecidablePred p.Undisturbed := fun e => by
  cases e <;> first | exact isTrue trivial | exact inferInstanceAs (Decidable (_ → _))

/-- The controls are taken as long as there is a thread, and there is never a second one. -/
structure Exclusive (p : MappedPage) : Prop where
  threads : p.threads.length = if p.busy then 1 else 0
  sensitive : p.sensitive = !p.busy
  spinning : p.spinning = p.busy
  named : p.busy = true → p.mapperName.isSome = true

variable {python : CharacterClasses} {p : MappedPage}

/-- Controls that are not busy have no thread, and can be pressed. -/
lemma Exclusive.idle (hp : p.Exclusive) (hbusy : p.busy = false) :
    p.threads.length = 0 ∧ p.sensitive = true ∧ p.spinning = false := by
  have hthreads := hp.threads
  have hsensitive := hp.sensitive
  have hspinning := hp.spinning
  simp only [hbusy] at hthreads hsensitive hspinning
  exact ⟨hthreads, hsensitive, hspinning⟩

lemma exclusive_refresh (hlength : p.threads.length = 0) (hbusy : p.busy = false)
    (hname : p.mapperName.isSome = true ∨ p.sensitive = true ∧ p.spinning = false) :
    p.refreshMappingState.Exclusive := by
  have hdrawn : p.refreshMappingState.sensitive = true ∧ p.refreshMappingState.spinning = false := by
    unfold refreshMappingState
    split
    · rename_i hnone
      rw [hnone] at hname
      exact hname.resolve_left (by simp)
    · exact ⟨rfl, rfl⟩
  refine ⟨by simp [hlength, hbusy], ?_, ?_, by simp [hbusy]⟩
  · rw [refresh_busy, hbusy, hdrawn.1]
    rfl
  · rw [refresh_busy, hbusy, hdrawn.2]

/-- Data of the volume that come while nothing is under way keep the controls exclusive. -/
lemma Exclusive.pageEvent (hp : p.Exclusive) {e : PageEvent} (uuid : String)
    (he : p.Posts e = true → p.busy = false) : (p.pageEvent python e uuid).Exclusive := by
  unfold MappedPage.pageEvent
  split
  · have hidle := he ‹_›
    exact exclusive_refresh (hp.idle hidle).1 hidle (Or.inl rfl)
  · exact { hp with }

lemma Exclusive.pollMappingState (hp : p.Exclusive) : p.pollMappingState.Exclusive := by
  unfold MappedPage.pollMappingState
  split_ifs with hpoll
  · have hidle : p.busy = false := by simpa using (Bool.and_eq_true_iff.mp hpoll).2
    exact exclusive_refresh (hp.idle hidle).1 hidle (Or.inr (hp.idle hidle).2)
  · exact hp

/-- A click is taken when nothing is under way, and then starts the one thread there is. -/
lemma Exclusive.mappingClicked (hp : p.Exclusive) : p.mappingClicked.Exclusive := by
  unfold MappedPage.mappingClicked
  split
  · exact hp
  · rename_i name hname
    split_ifs with hpressed
    · -- a button that can be pressed is one of an idle page
      have hidle : p.busy = false := by
        have hsensitive := hp.sensitive
        rw [(Bool.and_eq_true_iff.mp hpressed).2] at hsensitive
        simpa using hsensitive.symm
      exact ⟨by simp [(hp.idle hidle).1], rfl, rfl, fun _ => by simp [hname]⟩
    · exact hp

/-- The answer to a call leaves the thread in place. -/
lemma Exclusive.called (hp : p.Exclusive) (i : ℕ) (answer : Except String (Bool × String)) :
    (p.called i answer).Exclusive := by
  unfold MappedPage.called
  split
  · exact { hp with threads := (List.length_set ..).trans hp.threads }
  · exact hp

/-- The end of a thread makes the controls ready again. -/
lemma Exclusive.mappingDone (hp : p.Exclusive) (i : ℕ) : (p.mappingDone i).Exclusive := by
  unfold MappedPage.mappingDone
  split
  · rename_i ok err hdone
    obtain ⟨hlt, -⟩ := List.getElem?_eq_some_iff.mp hdone
    have hbusy : p.busy = true := by
      by_contra hidle
      have hlength := (hp.idle (by simpa using hidle)).1
      omega
    have hlength : p.threads.length = 1 := by simpa [hbusy] using hp.threads
    have herased : (p.threads.eraseIdx i).length = 0 := by
      rw [List.length_eraseIdx_of_lt hlt, hlength]
    exact exclusive_refresh herased rfl (Or.inl (hp.named hbusy))
  · exact hp

/-- No event that comes undisturbed brings a second thread. -/
lemma Exclusive.step (hp : p.Exclusive) {e : MappingEvent} (he : p.Undisturbed e) :
    (p.step python e).Exclusive := by
  cases e with
  | page e uuid => exact hp.pageEvent uuid he
  | outside v => exact { hp with }
  | poll => exact hp.pollMappingState
  | clicked => exact hp.mappingClicked
  | called i answer => exact hp.called i answer
  | done i => exact hp.mappingDone i
  | destroyed => exact { hp with }

lemma exclusive_new (device : String) (passphrase : Option String) (volumeKeyCached : Bool)
    (view : MapperView) : (new device passphrase volumeKeyCached view).Exclusive :=
  ⟨rfl, rfl, rfl, fun h => by cases h⟩

/-- **One operation at a time.**  In every run of a detail page in which no data of the volume arrive
while a mapping is being opened or closed, there is at most one such operation, and the button has its
sensitive flag set and the spinner stands still exactly while there is none.  (Whether the toolkit shows
the button at all is another flag, which is not asked about here.) -/
theorem one_operation_at_a_time (python : CharacterClasses) {device : String}
    {passphrase : Option String} {volumeKeyCached : Bool} {view : MapperView}
    {events : List MappingEvent}
    (hundisturbed : Events.Along (step python) Undisturbed
      (new device passphrase volumeKeyCached view) events) :
    (after python device passphrase volumeKeyCached view events).threads.length ≤ 1
      ∧ ((after python device passphrase volumeKeyCached view events).sensitive = true
        ↔ (after python device passphrase volumeKeyCached view events).threads = [])
      ∧ ((after python device passphrase volumeKeyCached view events).spinning = false
        ↔ (after python device passphrase volumeKeyCached view events).threads = []) := by
  have hend := Events.run_invariant (I := Exclusive) (fun _ _ hp he => Exclusive.step hp he)
    (exclusive_new device passphrase volumeKeyCached view) hundisturbed
  change (after python device passphrase volumeKeyCached view events).Exclusive at hend
  generalize after python device passphrase volumeKeyCached view events = p at hend ⊢
  rw [← List.length_eq_zero_iff, hend.threads, hend.sensitive, hend.spinning]
  cases p.busy <;> simp

/-- There is no mapping, and then there is. -/
def noMapper : MapperView := ⟨fun _ => false, fun mapper => some mapper, some ""⟩

/-- A page that was unlocked, and shows its volume. -/
def shownVolume : List MappingEvent :=
  [MappingEvent.page (PageEvent.doUnlock "pw") "",
    MappingEvent.page (PageEvent.unlockFinished 0 (Except.ok (true, 0))) "",
    MappingEvent.page (PageEvent.detailData [] [0, 1]) "7ab1"]

/-- A run with a poll and a second click while the volume is opened. -/
theorem one_open_at_a_time :
    let p := after ⟨Char.isAlphanum, fun _ _ => rfl⟩ "/dev/sdb1" none false noMapper
      (shownVolume ++ [MappingEvent.clicked, MappingEvent.poll, MappingEvent.clicked])
    p.threads.length ≤ 1 ∧ (p.sensitive = true ↔ p.threads = [])
      ∧ (p.spinning = false ↔ p.threads = []) :=
  one_operation_at_a_time _ (by decide)

/-- Data that arrive while the volume is opened make the button ready for a second `OpenVolume`. -/
example :
    (after ⟨Char.isAlphanum, fun _ _ => rfl⟩ "/dev/sdb1" none false noMapper
      (shownVolume ++ [MappingEvent.page PageEvent.refreshAfterEnroll "", MappingEvent.clicked,
        MappingEvent.page (PageEvent.detailData [] [0, 1]) "7ab1", MappingEvent.clicked])).threads.length
      = 2 := by decide

/-! ## What a click does

A click looks at the mapping when it is made, and its request is the opposite of what it found.  The
label may be older than that.
-/

/-- The label of a button over a mapping that is there, or is not. -/
def buttonLabel (isOpen : Bool) : String := if isOpen then "Close" else "Open"

/-- **The account of the controls**: they show what was there when they were drawn, the poll runs once
they have a name, and every click is behind one request. -/
structure Drawn (p : MappedPage) : Prop where
  shown : p.visible = true → p.label = buttonLabel p.drawn
  polling : p.mapperName.isSome = true → p.destroyed = false → p.polling = true
  clicks : ∀ c ∈ p.clicks, c.label = buttonLabel c.drawn
  requests : (p.sent.map MappingRequest.closes ++ p.threads.filterMap MappingThread.pending).Perm
    (p.clicks.map MappingClick.isOpen)

/-- Refreshing draws the controls anew, whatever they were. -/
lemma drawn_refresh (hclicks : ∀ c ∈ p.clicks, c.label = buttonLabel c.drawn)
    (hrequests : (p.sent.map MappingRequest.closes
      ++ p.threads.filterMap MappingThread.pending).Perm (p.clicks.map MappingClick.isOpen)) :
    p.refreshMappingState.Drawn := by
  refine ⟨?_, ?_, by simpa using hclicks, by simpa using hrequests⟩
  · unfold refreshMappingState
    split
    · intro hvisible
      cases hvisible
    · exact fun _ => rfl
  · unfold refreshMappingState
    split
    · rename_i hnone
      intro hname
      rw [hnone] at hname
      cases hname
    · exact fun _ _ => rfl

/-- Data of the volume draw the controls anew, or leave them as they were. -/
lemma Drawn.pageEvent (hp : p.Drawn) (e : PageEvent) (uuid : String) :
    (p.pageEvent python e uuid).Drawn := by
  unfold MappedPage.pageEvent
  split
  · exact drawn_refresh hp.clicks hp.requests
  · exact { hp with }

/-- The poll draws them anew, or leaves them. -/
lemma Drawn.pollMappingState (hp : p.Drawn) : p.pollMappingState.Drawn := by
  unfold MappedPage.pollMappingState
  split_ifs
  · exact drawn_refresh hp.clicks hp.requests
  · exact hp

/-- A click is recorded with the thread that it starts. -/
lemma Drawn.mappingClicked (hp : p.Drawn) : p.mappingClicked.Drawn := by
  unfold MappedPage.mappingClicked
  split
  · exact hp
  · split_ifs with hpressed
    · refine { hp with clicks := ?_, requests := ?_ }
      · intro c hc
        rcases List.mem_append.mp hc with hc | hc
        · exact hp.clicks c hc
        · obtain rfl := List.mem_singleton.mp hc
          exact hp.shown (Bool.and_eq_true_iff.mp hpressed).1
      · simp only [List.filterMap_append, List.map_append, ← List.append_assoc]
        exact hp.requests.append_right _
    · exact hp

/-- A thread that has its answer waits for nothing. -/
lemma pending_workResult (answer : Except String (Bool × String)) :
    (workResult answer).pending = none := by
  cases answer <;> rfl

/-- The threads that have not called yet, by a thread and the others. -/
lemma pending_eraseIdx {threads : List MappingThread} {i : ℕ} {thread : MappingThread}
    (hi : threads[i]? = some thread) : (threads.filterMap MappingThread.pending).Perm
      (thread.pending.toList ++ (threads.eraseIdx i).filterMap MappingThread.pending) := by
  obtain ⟨hlt, rfl⟩ := List.getElem?_eq_some_iff.mp hi
  refine ((List.getElem_cons_eraseIdx_perm hlt).symm.filterMap _).trans (List.Perm.of_eq ?_)
  cases hpending : threads[i].pending <;> simp [hpending]

/-- A thread that makes its call hands its click over to the request. -/
lemma pending_called {threads : List MappingThread} {i : ℕ} {isOpen : Bool} {name : String}
    (hi : threads[i]? = some (MappingThread.working isOpen name))
    (answer : Except String (Bool × String)) :
    (threads.filterMap MappingThread.pending).Perm
      (isOpen :: (threads.set i (workResult answer)).filterMap MappingThread.pending) := by
  obtain ⟨hlt, -⟩ := List.getElem?_eq_some_iff.mp hi
  have hset := (List.set_perm_cons_eraseIdx hlt (workResult answer)).filterMap MappingThread.pending
  rw [List.filterMap_cons_none (pending_workResult answer)] at hset
  exact (pending_eraseIdx hi).trans (hset.symm.cons isOpen)

/-- The request is the opposite of what the click found. -/
lemma closes_request (p : MappedPage) (isOpen : Bool) (name : String) :
    (p.request isOpen name).closes = isOpen := by
  cases isOpen <;> rfl

/-- A call turns what a thread was waiting for into a request that was sent. -/
lemma Drawn.called (hp : p.Drawn) (i : ℕ) (answer : Except String (Bool × String)) :
    (p.called i answer).Drawn := by
  unfold MappedPage.called
  split
  · rename_i isOpen name hi
    refine { hp with requests := ?_ }
    simp only [List.map_append, List.map_singleton, closes_request, List.append_assoc]
    exact ((pending_called hi answer).append_left _).symm.trans hp.requests
  · exact hp

/-- A thread that ends was waiting for nothing any more. -/
lemma Drawn.mappingDone (hp : p.Drawn) (i : ℕ) : (p.mappingDone i).Drawn := by
  unfold MappedPage.mappingDone
  split
  · rename_i ok err hi
    refine drawn_refresh hp.clicks ?_
    exact ((pending_eraseIdx hi).append_left _).symm.trans hp.requests
  · exact hp

lemma Drawn.step (hp : p.Drawn) (e : MappingEvent) : (p.step python e).Drawn := by
  cases e with
  | page e uuid => exact hp.pageEvent e uuid
  | outside v => exact { hp with }
  | poll => exact hp.pollMappingState
  | clicked => exact hp.mappingClicked
  | called i answer => exact hp.called i answer
  | done i => exact hp.mappingDone i
  | destroyed => exact { hp with polling := fun _ h => by cases h }

/-- A new page shows nothing and has sent nothing. -/
lemma drawn_new (device : String) (passphrase : Option String) (volumeKeyCached : Bool)
    (view : MapperView) : (new device passphrase volumeKeyCached view).Drawn where
  shown := fun h => by cases h
  polling := fun h => by cases h
  clicks := fun c hc => by cases hc
  requests := List.Perm.refl _

/-- **What a click does.**  In every run of a detail page every click is behind exactly one request, made
or about to be made, which closes the mapping exactly if there was one when the button was pressed.  The
button said what was there when the controls were last drawn; and with a name to look for, and unless an
operation is under way or the page is gone, the next poll draws what is there. -/
theorem clicks_follow_mapping (python : CharacterClasses) (device : String)
    (passphrase : Option String) (volumeKeyCached : Bool) (view : MapperView)
    (events : List MappingEvent) :
    let p := after python device passphrase volumeKeyCached view events
    (p.sent.map MappingRequest.closes ++ p.threads.filterMap MappingThread.pending).Perm
        (p.clicks.map MappingClick.isOpen)
      ∧ (∀ c ∈ p.clicks, c.label = buttonLabel c.drawn)
      ∧ ∀ name, p.mapperName = some name → p.destroyed = false → p.busy = false →
        (p.step python MappingEvent.poll).visible = true
          ∧ (p.step python MappingEvent.poll).label = buttonLabel (p.view.present name) := by
  intro p
  have hend : p.Drawn := Events.run_invariant (I := Drawn) (fun _ e hp _ => hp.step e)
    (drawn_new device passphrase volumeKeyCached view) (Events.along_true _ events)
  refine ⟨hend.requests, hend.clicks, fun name hname hthere hidle => ?_⟩
  have hpolling := hend.polling (by rw [hname]; rfl) hthere
  show p.pollMappingState.visible = true ∧ p.pollMappingState.label = _
  rw [pollMappingState, if_pos (by simp [hpolling, hidle]), refreshMappingState, hname]
  exact ⟨rfl, rfl⟩

/-! ## What the button sends

The requests carry the credentials of the page, so that what holds of the page's own requests holds
of these.
-/

/-- An unlock of the page is only begun when none is in flight. -/
def OneAtATime (p : MappedPage) : MappingEvent → Prop
  | MappingEvent.page e _ => p.page.OneAtATime e
  | _ => True

instance (p : MappedPage) : DecidablePred p.OneAtATime := fun e => by
  cases e <;> first | exact isTrue trivial | exact inferInstanceAs (Decidable (DetailPage.OneAtATime _ _))

/-- Nothing that was sent or can still be is for another device, or with other credentials. -/
structure Sends (python : CharacterClasses) (device : String) (creds : String × String × String)
    (p : MappedPage) : Prop where
  mapperName : ∀ name, p.mapperName = some name → NameFor python device name
  threads : ∀ isOpen name, MappingThread.working isOpen name ∈ p.threads → NameFor python device name
  sent : ∀ r ∈ p.sent, r.For python device creds

/-- No controls yet. -/
def Bare (p : MappedPage) : Prop := p.mapperName = none ∧ p.threads = [] ∧ p.sent = []

/-- A locked page has no controls yet; an unlocked one sends what it was unlocked with. -/
def Session (python : CharacterClasses) (device : String) (volumeKeyCached : Bool) (p : MappedPage) :
    Prop :=
  (p.page.Locked device ∧ p.Bare)
    ∨ ∃ creds k verified, DetailPage.Authority volumeKeyCached creds k verified
      ∧ p.page.Unlocked device creds k verified ∧ p.Sends python device creds

variable {device : String} {volumeKeyCached : Bool} {creds : String × String × String} {k : ℤ}
  {verified : List (UnlockCall × ℤ)}

lemma Sends.refresh (hp : p.Sends python device creds) :
    p.refreshMappingState.Sends python device creds := by
  refine ⟨fun name hname => ?_, fun isOpen name hthread => ?_, fun r hr => ?_⟩
  · exact hp.mapperName name (by simpa using hname)
  · exact hp.threads isOpen name (by simpa using hthread)
  · exact hp.sent r (by simpa using hr)

lemma Sends.pageEvent (hp : p.Sends python device creds) (hdevice : (p.page.step e).device = device)
    (uuid : String) : (p.pageEvent python e uuid).Sends python device creds := by
  unfold MappedPage.pageEvent
  split
  · refine Sends.refresh { hp with mapperName := fun name hname => ⟨uuid, ?_⟩ }
    exact (Option.some.inj hname).symm.trans (by rw [← hdevice])
  · exact { hp with }

/-- A click prepares a request with the credentials that the page holds. -/
lemma Sends.mappingClicked (hp : p.Sends python device creds) :
    p.mappingClicked.Sends python device creds := by
  unfold MappedPage.mappingClicked
  split
  · exact hp
  · rename_i name hname
    split_ifs
    · refine { hp with threads := fun isOpen name' hthread => ?_ }
      rcases List.mem_append.mp hthread with hthread | hthread
      · exact hp.threads isOpen name' hthread
      · obtain ⟨-, rfl⟩ := MappingThread.working.inj (List.mem_singleton.mp hthread)
        exact hp.mapperName name' hname
    · exact hp

/-- A thread reads the credentials of the page when it makes its call. -/
lemma Sends.called (hp : p.Sends python device creds)
    (hpage : p.page.Unlocked device creds k verified) (i : ℕ)
    (answer : Except String (Bool × String)) : (p.called i answer).Sends python device creds := by
  unfold MappedPage.called
  split
  · rename_i isOpen name hi
    have hname := hp.threads isOpen name (List.mem_of_getElem? hi)
    refine { hp with threads := fun isOpen' name' hthread => ?_, sent := fun r hr => ?_ }
    · rcases List.mem_or_eq_of_mem_set hthread with hthread | hthread
      · exact hp.threads isOpen' name' hthread
      · cases answer <;> cases hthread
    · rcases List.mem_append.mp hr with hr | hr
      · exact hp.sent r hr
      · obtain rfl := List.mem_singleton.mp hr
        cases isOpen with
        | true => exact ⟨hpage.sameDevice, hname⟩
        | false => exact ⟨hpage.sameDevice, hname, hpage.credentials⟩
  · exact hp

lemma Sends.mappingDone (hp : p.Sends python device creds) (i : ℕ) :
    (p.mappingDone i).Sends python device creds := by
  unfold MappedPage.mappingDone
  split
  · refine Sends.refresh { hp with threads := fun isOpen name hthread => ?_ }
    exact hp.threads isOpen name (List.mem_of_mem_eraseIdx hthread)
  · exact hp

/-- One step: every request goes to the device of the page, with its credentials. -/
lemma Sends.step (hp : p.Sends python device creds) (hpage : p.page.Unlocked device creds k verified)
    (e : MappingEvent) : (p.step python e).Sends python device creds := by
  cases e with
  | page e uuid => exact hp.pageEvent (hpage.step e).sameDevice uuid
  | outside v => exact { hp with }
  | poll =>
      show p.pollMappingState.Sends python device creds
      unfold MappedPage.pollMappingState
      split_ifs
      · exact hp.refresh
      · exact hp
  | clicked => exact hp.mappingClicked
  | called i answer => exact hp.called hpage i answer
  | done i => exact hp.mappingDone i
  | destroyed => exact { hp with }

/-- What is not an event of the page leaves the page alone. -/
lemma step_page (e : MappingEvent) : (p.step python e).page = p.page
    ∨ ∃ e' uuid, e = MappingEvent.page e' uuid ∧ (p.step python e).page = p.page.step e' := by
  cases e with
  | page e uuid =>
      refine Or.inr ⟨e, uuid, rfl, ?_⟩
      show (p.pageEvent python e uuid).page = _
      unfold MappedPage.pageEvent applyDeviceInfo
      split <;> simp
  | outside v => exact Or.inl rfl
  | poll =>
      refine Or.inl ?_
      show p.pollMappingState.page = p.page
      unfold MappedPage.pollMappingState
      split_ifs <;> simp
  | clicked =>
      refine Or.inl ?_
      show p.mappingClicked.page = p.page
      unfold MappedPage.mappingClicked
      split
      · rfl
      · split_ifs <;> rfl
  | called i answer =>
      refine Or.inl ?_
      show (p.called i answer).page = p.page
      unfold MappedPage.called
      split <;> rfl
  | done i =>
      refine Or.inl ?_
      show (p.mappingDone i).page = p.page
      unfold MappedPage.mappingDone
      split <;> simp
  | destroyed => exact Or.inl rfl

/-- A locked page has nothing to post, and no button. -/
lemma Bare.step (hp : p.Bare) (hlocked : p.page.Locked device) (e : MappingEvent) :
    (p.step python e).Bare := by
  obtain ⟨hname, hthreads, hsent⟩ := hp
  cases e with
  | page e uuid =>
      have hposts : p.Posts e = false := by
        cases e <;> first | rfl | simp [Posts, hlocked.fetches]
      show (p.pageEvent python e uuid).Bare
      rw [MappedPage.pageEvent, hposts]
      exact ⟨hname, hthreads, hsent⟩
  | outside v => exact ⟨hname, hthreads, hsent⟩
  | poll =>
      show p.pollMappingState.Bare
      unfold MappedPage.pollMappingState
      split_ifs
      · simp [Bare, hname, hthreads, hsent]
      · exact ⟨hname, hthreads, hsent⟩
  | clicked =>
      show p.mappingClicked.Bare
      rw [MappedPage.mappingClicked, hname]
      exact ⟨hname, hthreads, hsent⟩
  | called i answer =>
      show (p.called i answer).Bare
      rw [MappedPage.called, hthreads]
      exact ⟨hname, hthreads, hsent⟩
  | done i =>
      show (p.mappingDone i).Bare
      rw [MappedPage.mappingDone, hthreads]
      exact ⟨hname, hthreads, hsent⟩
  | destroyed => exact ⟨hname, hthreads, hsent⟩

/-- One step of a session whose operations are kept apart. -/
lemma Session.step (hp : p.Session python device volumeKeyCached) {e : MappingEvent}
    (he : p.OneAtATime e) : (p.step python e).Session python device volumeKeyCached := by
  rcases hp with ⟨hlocked, hbare⟩ | ⟨creds, k, verified, hauthority, hpage, hsends⟩
  · have hbare' : (p.step python e).Bare := hbare.step hlocked e
    have hpage : (p.step python e).page.Session device volumeKeyCached := by
      rcases @step_page python p e with hsame | ⟨e', uuid, rfl, hstep⟩
      · rw [hsame]
        exact Or.inl hlocked
      · rw [hstep]
        exact hlocked.step volumeKeyCached he
    rcases hpage with hlocked' | ⟨creds, k, verified, hauthority, hunlocked⟩
    · exact Or.inl ⟨hlocked', hbare'⟩
    · obtain ⟨hname, hthreads, hsent⟩ := hbare'
      refine Or.inr ⟨creds, k, verified, hauthority, hunlocked, ?_, ?_, ?_⟩
      · intro name hn
        rw [hname] at hn
        cases hn
      · intro isOpen name hthread
        rw [hthreads] at hthread
        cases hthread
      · intro r hr
        rw [hsent] at hr
        cases hr
  · refine Or.inr ⟨creds, k, verified, hauthority, ?_, hsends.step hpage e⟩
    rcases @step_page python p e with hsame | ⟨e', uuid, -, hstep⟩
    · rw [hsame]
      exact hpage
    · rw [hstep]
      exact hpage.step e'

lemma session_after {passphrase : Option String} {view : MapperView} {events : List MappingEvent}
    (honce : Events.Along (step python) OneAtATime (new device passphrase volumeKeyCached view) events) :
    (after python device passphrase volumeKeyCached view events).Session python device volumeKeyCached := by
  refine Events.run_invariant (I := Session python device volumeKeyCached)
    (fun _ _ hp he => Session.step hp he) ?_ honce
  rcases DetailPage.session_new device passphrase volumeKeyCached with
    hlocked | ⟨creds, k, verified, hauthority, hpage⟩
  · exact Or.inl ⟨hlocked, rfl, rfl, rfl⟩
  · exact Or.inr ⟨creds, k, verified, hauthority, hpage, fun _ h => (by cases h),
      fun _ _ h => (by cases h), fun _ h => (by cases h)⟩

end MappedPage

end LuksEnroll

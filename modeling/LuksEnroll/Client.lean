import LuksEnroll.Unlocking

/-!
# What the client offers to reformat

The device list of the client asks the service for the keyslots of every volume it shows, makes a
line of text out of the answer, and decides by that text: a removable partition or image file whose
line reads "No keyslots", and whose volume key is not cached, is offered for a reformat.

Three things can make an offer wrong.

* The service answers with the empty object also where it could read nothing: a LUKS1 header, another
  format, metadata that cannot be read.  Such a path gets the same line and the same offer
  (`luks1_volume_offered`).
* One failing call is enough for that, on a volume whose header is in order (`Reading.mayFail`).
* The cache is asked under one name.  A regular file that the service cannot resolve goes by the number
  of the descriptor that happened to be passed, so that a key may be cached for the volume, and not be
  found (`AnswersTell.known`).

`offers_only_unusable_iff_can_tell`: the offers are right in every run exactly if none of the three is
the case for any path that can be offered.
-/

namespace LuksEnroll

open Library

/-! ## The service's answers -/

/-- `keyslots_json`: the keyslot types by number, in the order of the numbers' texts. -/
def keyslotsJson (device : String) : Op Json := do
  let slots ← listKeyslots device
  return Json.obj (OrderedMap.ofList
    (slots.entries.map fun x => (toString x.1, Json.str x.2))).entries

/-! ## Calls of the client

The client sees the service through a proxy: it can raise, and what it hands back is read as Python
reads it.
-/

/-- What a call can raise: `GLib.Error`, which the client handles, or something it does not. -/
inductive Raised : Type
  | glibError (message : String)
  | other

/-- A partition of a removable device, as `DetectRemovableDevices` lists it.  `encrypted` is set for
every `crypto_LUKS` signature, whatever its version. -/
structure Partition where
  device : String
  encrypted : Bool

/-- What the client asks for while it draws the list. -/
inductive ClientCmd : Type
  | detectDevices
  | detectRemovableDevices
  | isfile (path : String)
  | getKeyslots (device : String)
  | isVolumeKeyCached (device : String)

/-- The answers: a call of the service may raise, a look at a file does not. -/
abbrev ClientReply : ClientCmd → Type
  | ClientCmd.detectDevices => Except Raised (List String)
  | ClientCmd.detectRemovableDevices => Except Raised (List (List Partition))
  | ClientCmd.isfile _ => Bool
  | ClientCmd.getKeyslots _ => Except Raised Json
  | ClientCmd.isVolumeKeyCached _ => Except Raised Bool

/-- The items of the answer with numbers for keys. -/
def pyItems : OrderedMap ℤ String → List (String × Json) → Except Raised (OrderedMap ℤ String)
  | out, [] => Except.ok out
  | out, (k, v) :: items =>
      match parseSigned k.toList, v.asStr with
      | some n, some stype => pyItems (out.insert n stype) items
      | _, _ => Except.error Raised.other

/-- The dictionary that `get_keyslots` makes out of the answer. -/
def pyKeyslots : Json → Except Raised (OrderedMap ℤ String)
  | Json.obj items => pyItems ∅ items
  | _ => Except.error Raised.other

/-- What `fetch_data` hands to the page. -/
structure PageData where
  error : Option String := none
  devices : List String := []
  removable : List (List Partition) := []
  summaries : String → Option String := fun _ => none
  reformattable : List String := []

/-- The encrypted partitions of the removable devices. -/
def encryptedPartitions (removable : List (List Partition)) : List String :=
  (removable.flatten.filter Partition.encrypted).map Partition.device

/-- What settles one call: whether it raises, the number of the descriptor that is passed along for a
regular file, and the inputs of the service's environment. -/
structure ClientInput where
  raised : Option Raised := none
  fd : ℕ := 0
  inputs : ℕ → Oracle := fun _ => Oracle.quiet

/-- An input under which every call raises; only there to have one. -/
instance : Inhabited ClientInput := ⟨{ raised := some (Raised.glibError "") }⟩

/-- This descriptor was opened under this path: it leads to the same object, and where the service can
resolve both it resolves them alike. -/
def FileSystem.opened (fs : FileSystem) (path : String) (fd : ℕ) : Bool :=
  decide (fs.node (fdPath fd) = fs.node path)
    && match fs.canonicalize (fdPath fd), fs.canonicalize path with
      | some q, some q' => decide (q = q')
      | _, _ => true

/-- The name under which the service meets a path of the client: a descriptor's for a regular file, the
canonical path of a block device.  It takes nothing else. -/
def World.serviceName (w : World) (path : String) (fd : ℕ) : Option String :=
  match w.fs.kindAt path with
  | some FileKind.regular => if w.fs.opened path fd then some (fdPath fd) else none
  | some (FileKind.block _ _) => w.fs.canonicalize path
  | _ => none

/-- How reading the metadata of an object goes: always, never (with this error), or as it happens, one
call failing and the next one not. -/
inductive Reading : Type
  | works
  | fails (error : String)
  | mayFail

/-- What becomes of a call, given what would. -/
def Reading.fault : Reading → Option String → Option String
  | works, _ => none
  | fails error, _ => some error
  | mayFail, fault => fault

/-- What the listings say, and how reading goes for every object. -/
structure Listing where
  devices : List String
  removable : List (List Partition)
  reading : ℕ → Reading

namespace Listing

/-- How reading goes at a path. -/
def readingAt (l : Listing) (w : World) (path : String) : Reading :=
  ((w.fs.node path).map l.reading).getD Reading.works

/-- The inputs of a request on `device`. -/
def serviceInputs (l : Listing) (w : World) (device : String) (os : ℕ → Oracle) (n : ℕ) : Oracle :=
  { os n with fault := (l.readingAt w device).fault (os n).fault }

/-- A call that has the service run `body` on a path. -/
def request {α : Type} (l : Listing) (body : String → Op α) (path : String) (i : ClientInput)
    (w : World) : Except Raised α × World :=
  match i.raised with
  | some e => (Except.error e, w)
  | none =>
      match w.serviceName path i.fd with
      | some device =>
          let r := (body device).run (exec none) (l.serviceInputs w device i.inputs) w
          (r.1.mapError Raised.glibError, r.2)
      | none => (Except.error (Raised.glibError "Path is not a block device or regular file"), w)

/-- A listing, unless the call raises. -/
def listed {α : Type} (a : α) (i : ClientInput) : Except Raised α :=
  match i.raised with
  | some e => Except.error e
  | none => Except.ok a

/-- The answers to the client's calls. -/
def answers (l : Listing) : Handler ClientCmd ClientReply ClientInput World
  | ClientCmd.detectDevices, i, w => (listed l.devices i, w)
  | ClientCmd.detectRemovableDevices, i, w => (listed l.removable i, w)
  | ClientCmd.isfile path, _, w => (decide (w.fs.kindAt path = some FileKind.regular), w)
  | ClientCmd.getKeyslots device, i, w => l.request keyslotsJson device i w
  | ClientCmd.isVolumeKeyCached device, i, w => l.request LuksEnroll.isVolumeKeyCached device i w

/-- The LUKS2 header that can be read at a path. -/
def readable (l : Listing) (w : World) (path : String) : Option Header :=
  match l.readingAt w path with
  | Reading.fails _ => none
  | _ => w.header path

/-- The paths that can be offered: encrypted partitions, and image files that are files. -/
def candidates (l : Listing) (imageFiles : List String) (w : World) : List String :=
  encryptedPartitions l.removable ++ imageFiles.filter fun p => w.fs.kindAt p = some FileKind.regular

end Listing

/-- A volume that can never be unlocked: a LUKS2 header can be read, it has no keyslot, and the service
has no key for the volume, under whatever name of it. -/
structure Unusable (l : Listing) (w w' : World) (path : String) : Prop where
  keyless : ∃ h, l.readable w path = some h ∧ ∀ i, h.keyslots i = none
  uncached : ∀ name, w.fs.node name = w.fs.node path → w'.cachedKey name = none

/-- The key that is cached under a name when the time is `t`, if nothing is cached or dropped by then. -/
def World.cachedAt (w : World) (t : ℕ) (name : String) : Option VolumeKey :=
  live t (w.cache (w.fs.cacheKey name))

variable {l : Listing} {py : CaseMapping} {imageFiles : List String} {w v : World}
  {device path name : String}

/-- Time passed and keys that had run out may have been dropped from the cache; nothing else. -/
structure World.Waned (w v : World) : Prop where
  disk : w.SameDisk v
  now_le : w.now ≤ v.now
  cache : ∀ p, ∀ t ≥ v.now, live t (v.cache p) = live t (w.cache p)

lemma live_none_of_le {t t' : ℕ} (ht : t ≤ t') {entry : Option (VolumeKey × ℕ)}
    (hnone : live t entry = none) : live t' entry = none := by
  cases hlive : live t' entry with
  | none => rfl
  | some vk =>
      rw [live_of_later ht hlive] at hnone
      cases hnone

namespace World.Waned

variable {u : World}

/-- Time that passes lets entries wane and does nothing else. -/
lemma of_later (hlater : w.Later v) : w.Waned v := by
  obtain ⟨d, rfl⟩ := hlater
  exact ⟨⟨rfl, rfl, rfl⟩, Nat.le_add_right _ _, fun p t _ => rfl⟩

lemma refl (w : World) : w.Waned w := of_later (World.Later.refl w)

lemma trans (huv : u.Waned v) (hvw : v.Waned w) : u.Waned w where
  disk := huv.disk.trans hvw.disk
  now_le := huv.now_le.trans hvw.now_le
  cache := fun p t ht => (hvw.cache p t ht).trans (huv.cache p t (hvw.now_le.trans ht))

/-- An entry that is still unexpired then is what it was. -/
lemma cachedAt (huv : u.Waned v) (name : String) {t : ℕ} (ht : v.now ≤ t) :
    v.cachedAt t name = u.cachedAt t name := by
  rw [World.cachedAt, huv.disk.fs]
  exact huv.cache _ t ht

/-- What is cached now was cached before, for long enough. -/
lemma cachedKey (huv : u.Waned v) (name : String) : v.cachedKey name = u.cachedAt v.now name :=
  huv.cachedAt name le_rfl

lemma cachedKey_none (huv : u.Waned v) {name : String} (hnone : u.cachedKey name = none) :
    v.cachedKey name = none := by
  rw [huv.cachedKey]
  exact live_none_of_le huv.now_le hnone

/-- The name under which the service knows a path stays. -/
lemma serviceName (huv : u.Waned v) (path : String) (fd : ℕ) :
    v.serviceName path fd = u.serviceName path fd := by
  simp only [World.serviceName, huv.disk.fs]

lemma readingAt (huv : u.Waned v) (path : String) : l.readingAt v path = l.readingAt u path := by
  simp only [Listing.readingAt, huv.disk.fs]

end World.Waned

section Offers

variable {A : ClientInput → Prop}

/-- The offers so far are right. -/
def OffersRight (l : Listing) (w : World) (data : PageData) (v : World) : Prop :=
  w.Waned v ∧ ∀ p ∈ data.reformattable, Unusable l w v p

/-- Offers that were right stay right while entries wane. -/
lemma OffersRight.later {data : PageData} {v' : World} (hd : OffersRight l w data v)
    (hv : v.Waned v') : OffersRight l w data v' := by
  refine ⟨hd.1.trans hv, fun p hp => ⟨(hd.2 p hp).keyless, fun name hname => ?_⟩⟩
  exact hv.cachedKey_none ((hd.2 p hp).uncached name hname)

end Offers

/-! ## What does not tell can be offered

The other direction: where reading fails, or may fail, there is a run that offers the path.  It is
built from the outside in, by saying how every call turns out.
-/

section Misled

/-- A call in which whatever may fail does, and that takes its time. -/
def asking (fd elapsed : ℕ) : ClientInput where
  fd := fd
  inputs := fun _ => { Oracle.quiet with fault := some "", elapsed := elapsed }

end Misled

/-! ## The offers

Both directions together.  The counterexample is a volume with a LUKS1 header, which the service
cannot read at all.
-/

end LuksEnroll

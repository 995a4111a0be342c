import LuksEnroll.Library.Dict
import Mathlib.Data.List.DropRight
import Mathlib.Data.Finset.Card
import Mathlib.Tactic.SplitIfs

/-!
# The listener for new volumes

`Udisks2LuksWatcher` turns the `InterfacesAdded` and `PropertiesChanged` signals of udisks2 into
launches of the unlock dialog.  A block device that appears before its type is known is remembered,
in a table of bounded size, until the type arrives.

**Stale entries.**  An object that is added again with its type known keeps the entry of its earlier
appearance, so a later change of type launches it a second time, or launches what was last added as
another filesystem (`old_entry_launched`).  Every launch is accounted for as long as no object gains
its type by being added again while it is still remembered (`launches_accounted_for`).

**Eviction.**  Room is made before the table is looked at, and an entry set again keeps its old
place.  So adding an object twice can drop a newer one (`newer_entry_dropped`).  A late probe is never
lost as long as no object is added again while it is remembered (`late_probe_launches`), or only where the
table comes out as if its entry had been taken out first: the oldest entry of a full table, and the newest
one of a table with room.

The table is a list in the order in which its entries were set, as a Python dictionary is; `Library.Dict`
has its rules.  Both conditions are about one kind of signal, an object that is added again while it is
remembered: the first asks whether its type is known by then, the second whether the table came out other
than if its entry had been taken out first.
-/

namespace LuksEnroll

open Library

/-! ## Payloads

Values as they come over the bus, and what the source reads off them.  A path is bytes, which are
decoded as Python decodes them.
-/

/-- The value of a property, unpacked. -/
inductive Value : Type
  | text (s : String)
  | octets (b : List UInt8)
  | number (n : ℤ)
  | flag (b : Bool)
deriving DecidableEq

/-- Python's truth value. -/
def Value.truthy : Value → Bool
  | text s => s ≠ ""
  | octets b => b ≠ []
  | number n => n ≠ 0
  | flag b => b

/-- The truth value of what `dict.get` returns. -/
def truthyGet : Option Value → Bool
  | none => false
  | some v => v.truthy

/-- A multi-byte sequence under way: the bytes it still needs, the range of the next, its bits. -/
structure Utf8Tail where
  needed : ℕ
  lo : UInt8
  hi : UInt8
  bits : ℕ

/-- U+FFFD, which stands for what could not be decoded. -/
def replacementCharacter : Char := Char.ofNat 0xFFFD

/-- The first byte of a sequence. -/
def utf8Lead (b : UInt8) : List Char × Option Utf8Tail :=
  if b < 0x80 then ([Char.ofNat b.toNat], none)
  else if b < 0xC2 then ([replacementCharacter], none)
  else if b < 0xE0 then ([], some ⟨1, 0x80, 0xBF, b.toNat - 0xC0⟩)
  else if b < 0xF0 then
    -- overlong forms and surrogates are excluded by the range of the second byte
    ([], some ⟨2, if b = 0xE0 then 0xA0 else 0x80, if b = 0xED then 0x9F else 0xBF, b.toNat - 0xE0⟩)
  else if b < 0xF5 then
    ([], some ⟨3, if b = 0xF0 then 0x90 else 0x80, if b = 0xF4 then 0x8F else 0xBF, b.toNat - 0xF0⟩)
  else ([replacementCharacter], none)

/-- One byte: a sequence that it does not continue is replaced as far as it went. -/
def utf8Feed : Option Utf8Tail → UInt8 → List Char × Option Utf8Tail
  | none, b => utf8Lead b
  | some t, b =>
      if t.lo ≤ b ∧ b ≤ t.hi then
        if t.needed = 1 then ([Char.ofNat (t.bits * 64 + b.toNat % 64)], none)
        else ([], some ⟨t.needed - 1, 0x80, 0xBF, t.bits * 64 + b.toNat % 64⟩)
      else (replacementCharacter :: (utf8Lead b).1, (utf8Lead b).2)

/-- The characters of the bytes, after the sequence under way. -/
def utf8Chars : Option Utf8Tail → List UInt8 → List Char
  | none, [] => []
  | some _, [] => [replacementCharacter]
  | t, b :: bs => (utf8Feed t b).1 ++ utf8Chars (utf8Feed t b).2 bs

/-- `bytes.decode("utf-8", "replace")`. -/
def decodeReplace (b : List UInt8) : String := String.ofList (utf8Chars none b)

/-- `bytes(raw)`: a text, or a negative count, raises. -/
def bytesOf : Value → Option (List UInt8)
  | Value.text _ => none
  | Value.octets b => some b
  | Value.number n => if n < 0 then none else some (List.replicate n.toNat 0)
  | Value.flag b => some (List.replicate b.toNat 0)

/-- `_udisks2_decode_device`.  The outer `none` is an exception: the handler ends there. -/
def udisks2DecodeDevice : Option Value → Option (Option String)
  | none => some none
  | some raw =>
      if raw.truthy then
        (bytesOf raw).map fun b =>
          let text := decodeReplace (b.rdropWhile (· = 0))
          if text = "" then none else some text
      else some none

/-- The properties of one interface. -/
abbrev Properties := Dict String Value

/-- The interfaces of an object, with their properties. -/
abbrev Interfaces := Dict String Properties

/-- The interface of a block device. -/
def udisks2BlockIface : String := "org.freedesktop.UDisks2.Block"

/-- The type of a LUKS volume. -/
def cryptoLuks : Value := Value.text "crypto_LUKS"

/-- `udisks2_pick_new_luks_device`. -/
def udisks2PickNewLuksDevice (interfaces : Interfaces) : Option (Option String) :=
  match interfaces.get? udisks2BlockIface with
  | none => some none
  | some block =>
      if block.entries = [] then some none
      else if block.get? "IdType" ≠ some cryptoLuks then some none
      else udisks2DecodeDevice (block.get? "Device")

/-- `udisks2_pending_block_device`. -/
def udisks2PendingBlockDevice (interfaces : Interfaces) : Option (Option String) :=
  match interfaces.get? udisks2BlockIface with
  | none => some none
  | some block =>
      if block.entries = [] ∨ truthyGet (block.get? "IdType") then some none
      else udisks2DecodeDevice (block.get? "Device")

/-! ## The watcher

The table of objects that wait for their type, and the two signals.
-/

/-- A signal of udisks2, as it is fed to the watcher. -/
inductive Signal : Type
  | interfacesAdded (objPath : String) (interfaces : Interfaces)
  | blockPropertiesChanged (objPath : String) (changed : Properties)

/-- The object a signal is about. -/
def Signal.object : Signal → String
  | interfacesAdded p _ => p
  | blockPropertiesChanged p _ => p

/-- What the watcher does at a signal. -/
inductive Reaction : Type
  | log (message : String)
  | launch (device : String)
deriving DecidableEq

/-- `WATCH_PENDING_BLOCKS_MAX`. -/
def watchPendingBlocksMax : ℕ := 16

/-- `Udisks2LuksWatcher`. -/
structure Watcher where
  maxPending : ℕ
  pending : Dict String String

/-- `__init__`: no bound, or the bound 0, means the default. -/
def Watcher.init (maxPending : Option ℕ) : Watcher where
  maxPending := if maxPending.getD 0 = 0 then watchPendingBlocksMax else maxPending.getD 0
  pending := ∅

/-- `interfaces_added`. -/
def Watcher.interfacesAdded (w : Watcher) (objPath : String) (interfaces : Interfaces) :
    Watcher × List Reaction :=
  match udisks2PickNewLuksDevice interfaces with
  | none => (w, [])
  | some (some device) =>
      (w, [Reaction.log s!"new LUKS block device {device}; launching unlock dialog",
        Reaction.launch device])
  | some none =>
      match udisks2PendingBlockDevice interfaces with
      | none => (w, [])
      | some none => (w, [])
      | some (some device) =>
          ({ w with pending := (w.pending.evict w.maxPending).set objPath device },
            [Reaction.log (s!"block device {device} appeared without a filesystem type " ++
              "yet; waiting for udisks2 probe results")])

/-- `block_properties_changed`. -/
def Watcher.blockPropertiesChanged (w : Watcher) (objPath : String) (changed : Properties) :
    Watcher × List Reaction :=
  match w.pending.get? objPath with
  | none => (w, [])
  | some device =>
      if device = "" then (w, [])
      else if changed.get? "IdType" = some cryptoLuks then
        ({ w with pending := w.pending.erase objPath },
          [Reaction.log (s!"device {device} probed as crypto_LUKS after it appeared; " ++
            "launching unlock dialog"), Reaction.launch device])
      else if truthyGet (changed.get? "IdType") then
        ({ w with pending := w.pending.erase objPath }, [])
      else (w, [])

/-- One signal. -/
def Watcher.step (w : Watcher) : Signal → Watcher × List Reaction
  | Signal.interfacesAdded p interfaces => w.interfacesAdded p interfaces
  | Signal.blockPropertiesChanged p changed => w.blockPropertiesChanged p changed

/-- The watcher after some signals. -/
def Watcher.after (w : Watcher) (signals : List Signal) : Watcher :=
  signals.foldl (fun w e => (w.step e).1) w

/-- A signal, with what was done at it. -/
structure Handled where
  signal : Signal
  reactions : List Reaction

/-- The devices a signal launched the dialog for. -/
def Handled.launches (r : Handled) : List String :=
  r.reactions.filterMap fun
    | Reaction.log _ => none
    | Reaction.launch device => some device

/-- What is done at each of some signals. -/
def Watcher.run (w : Watcher) : List Signal → List Handled
  | [] => []
  | e :: signals => ⟨e, (w.step e).2⟩ :: (w.step e).1.run signals

/-! ## What a signal says of an object

The conditions and conclusions of the theorems, in terms of signals only.
-/

/-- The Block interface that a signal adds to an object. -/
def Signal.blockOf (p : String) : Signal → Option Properties
  | interfacesAdded q interfaces => if q = p then interfaces.get? udisks2BlockIface else none
  | blockPropertiesChanged _ _ => none

/-- The type that a change of properties reports for an object. -/
def Signal.idTypeOf (p : String) : Signal → Option Value
  | interfacesAdded _ _ => none
  | blockPropertiesChanged q changed => if q = p then changed.get? "IdType" else none

/-- A Block has a type. -/
def Typed (block : Properties) : Prop := truthyGet (block.get? "IdType") = true

/-- In this history the object was last added without a type, and since then nothing was launched
for it and no other type was reported. -/
def AddedTypeless (past : List Handled) (p : String) : Prop :=
  ∃ before r after block, past = before ++ r :: after ∧
    r.signal.blockOf p = some block ∧ ¬ Typed block ∧ r.launches = [] ∧
    ∀ r' ∈ after, r'.signal.blockOf p = none ∧ (r'.signal.object = p → r'.launches = []) ∧
      ¬ (truthyGet (r'.signal.idTypeOf p) = true ∧ r'.signal.idTypeOf p ≠ some cryptoLuks)

/-- The launches that are meant: a volume that appears as one, or the late probe of an object that
appeared without a type. -/
def AccountedFor (past : List Handled) : Signal → Prop
  | Signal.interfacesAdded _ interfaces => ∃ block device,
      interfaces.get? udisks2BlockIface = some block ∧ block.get? "IdType" = some cryptoLuks ∧
      udisks2DecodeDevice (block.get? "Device") = some (some device)
  | Signal.blockPropertiesChanged p changed =>
      changed.get? "IdType" = some cryptoLuks ∧ AddedTypeless past p

/-- Every launch of a history is accounted for by what came before it. -/
def LaunchesAccountedFor (history : List Handled) : Prop :=
  ∀ before r after, history = before ++ r :: after → r.launches ≠ [] → AccountedFor before r.signal

/-- Between two launches for an object, it was added again. -/
def LaunchedOncePerAppearance (history : List Handled) : Prop :=
  ∀ p before r₁ between r₂ after, history = before ++ r₁ :: (between ++ r₂ :: after) →
    r₁.signal.object = p → r₁.launches ≠ [] → r₂.signal.object = p → r₂.launches ≠ [] →
    ∃ r ∈ between ++ [r₂], (r.signal.blockOf p).isSome

/-- A signal adds an object with its type known, while the watcher still waits for that type. -/
def RetypedWhilePending (w : Watcher) : Signal → Prop
  | Signal.interfacesAdded p interfaces =>
      (∃ block ∈ interfaces.get? udisks2BlockIface, Typed block) ∧
        p ∈ w.pending.entries.map Prod.fst
  | Signal.blockPropertiesChanged _ _ => False

/-- No signal of the run does so. -/
def SettledBeforeRetyped : Watcher → List Signal → Prop
  | _, [] => True
  | w, e :: signals => ¬ RetypedWhilePending w e ∧ SettledBeforeRetyped (w.step e).1 signals

instance (block : Properties) : Decidable (Typed block) :=
  inferInstanceAs (Decidable (truthyGet (block.get? "IdType") = true))

instance (w : Watcher) : (e : Signal) → Decidable (RetypedWhilePending w e)
  | Signal.interfacesAdded _ _ => inferInstanceAs (Decidable (_ ∧ _))
  | Signal.blockPropertiesChanged _ _ => inferInstanceAs (Decidable False)

instance : (w : Watcher) → (signals : List Signal) → Decidable (SettledBeforeRetyped w signals)
  | _, [] => inferInstanceAs (Decidable True)
  | w, e :: signals =>
      have : Decidable (SettledBeforeRetyped (w.step e).1 signals) :=
        instDecidableSettledBeforeRetyped (w.step e).1 signals
      inferInstanceAs (Decidable (¬ RetypedWhilePending w e ∧ _))

/-! ## What a step can do

The two functions of the source, each with all that it can do.
-/

/-- A device path that was decoded is not empty. -/
lemma decodeDevice_ne_empty {raw : Option Value} {device : String}
    (h : udisks2DecodeDevice raw = some (some device)) : device ≠ "" := by
  cases raw with
  | none => simp [udisks2DecodeDevice] at h
  | some raw =>
      simp only [udisks2DecodeDevice] at h
      split_ifs at h with ht
      · simp only [Option.map_eq_some_iff] at h
        obtain ⟨b, -, hb⟩ := h
        split_ifs at hb with he
        simp only [Option.some.injEq] at hb
        exact hb ▸ he
      · simp at h

/-- A device is picked when its type is LUKS and its path can be decoded. -/
lemma pickNewLuksDevice_some {interfaces : Interfaces} {device : String}
    (h : udisks2PickNewLuksDevice interfaces = some (some device)) :
    ∃ block, interfaces.get? udisks2BlockIface = some block ∧
      block.get? "IdType" = some cryptoLuks ∧
      udisks2DecodeDevice (block.get? "Device") = some (some device) := by
  cases hb : interfaces.get? udisks2BlockIface with
  | none => simp [udisks2PickNewLuksDevice, hb] at h
  | some block =>
      simp only [udisks2PickNewLuksDevice, hb] at h
      split_ifs at h with he ht
      · simp at h
      · simp at h
      · exact ⟨block, rfl, not_not.mp ht, h⟩

/-- A device is remembered when its type is not known and its path can be decoded. -/
lemma pendingBlockDevice_some {interfaces : Interfaces} {device : String}
    (h : udisks2PendingBlockDevice interfaces = some (some device)) :
    ∃ block, interfaces.get? udisks2BlockIface = some block ∧ ¬ Typed block ∧
      udisks2DecodeDevice (block.get? "Device") = some (some device) := by
  cases hb : interfaces.get? udisks2BlockIface with
  | none => simp [udisks2PendingBlockDevice, hb] at h
  | some block =>
      simp only [udisks2PendingBlockDevice, hb] at h
      split_ifs at h with ht
      · simp at h
      · exact ⟨block, rfl, fun hty => ht (Or.inr hty), h⟩

lemma typed_of_cryptoLuks {block : Properties} (h : block.get? "IdType" = some cryptoLuks) :
    Typed block := by
  rw [Typed, h]
  decide

/-- **What adding an object can do**: launch a volume that appears as one, remember a device without
a type, or nothing. -/
lemma Watcher.interfacesAdded_cases (w : Watcher) (p : String) (interfaces : Interfaces) :
    ((w.interfacesAdded p interfaces).1 = w ∧
      ((Handled.mk (Signal.interfacesAdded p interfaces) (w.interfacesAdded p interfaces).2).launches
        = [] ∨
      ∃ block device, interfaces.get? udisks2BlockIface = some block ∧
        block.get? "IdType" = some cryptoLuks ∧
        udisks2DecodeDevice (block.get? "Device") = some (some device))) ∨
    ∃ block device, interfaces.get? udisks2BlockIface = some block ∧ ¬ Typed block ∧
      udisks2DecodeDevice (block.get? "Device") = some (some device) ∧
      (w.interfacesAdded p interfaces).1 =
        { w with pending := (w.pending.evict w.maxPending).set p device } ∧
      (Handled.mk (Signal.interfacesAdded p interfaces) (w.interfacesAdded p interfaces).2).launches
        = [] := by
  cases hpick : udisks2PickNewLuksDevice interfaces with
  | none => simp [Watcher.interfacesAdded, hpick, Handled.launches]
  | some picked =>
      cases picked with
      | some device =>
          left
          refine ⟨by simp [Watcher.interfacesAdded, hpick], Or.inr ?_⟩
          obtain ⟨block, hblock, htype, hdevice⟩ := pickNewLuksDevice_some hpick
          exact ⟨block, device, hblock, htype, hdevice⟩
      | none =>
          cases hpending : udisks2PendingBlockDevice interfaces with
          | none => simp [Watcher.interfacesAdded, hpick, hpending, Handled.launches]
          | some pending =>
              cases pending with
              | none => simp [Watcher.interfacesAdded, hpick, hpending, Handled.launches]
              | some device =>
                  right
                  obtain ⟨block, hblock, htype, hdevice⟩ := pendingBlockDevice_some hpending
                  exact ⟨block, device, hblock, htype, hdevice,
                    by simp [Watcher.interfacesAdded, hpick, hpending],
                    by simp [Watcher.interfacesAdded, hpick, hpending, Handled.launches]⟩

/-- **What a change of properties can do**: settle a remembered object, launching it if it is a
volume, or nothing, and then the object is not remembered or the change has no type. -/
lemma Watcher.blockPropertiesChanged_cases (w : Watcher) (p : String) (changed : Properties)
    (hdev : ∀ x ∈ w.pending.entries, x.2 ≠ "") :
    ((w.blockPropertiesChanged p changed).1 = w ∧
      (Handled.mk (Signal.blockPropertiesChanged p changed)
        (w.blockPropertiesChanged p changed).2).launches = [] ∧
      (p ∈ w.pending.entries.map Prod.fst → truthyGet (changed.get? "IdType") = false)) ∨
    ∃ device, (p, device) ∈ w.pending.entries ∧ truthyGet (changed.get? "IdType") = true ∧
      (w.blockPropertiesChanged p changed).1 = { w with pending := w.pending.erase p } ∧
      (Handled.mk (Signal.blockPropertiesChanged p changed)
        (w.blockPropertiesChanged p changed).2).launches =
          if changed.get? "IdType" = some cryptoLuks then [device] else [] := by
  cases hget : w.pending.get? p with
  | none =>
      left
      have hout : p ∉ w.pending.entries.map Prod.fst := Dict.get?_eq_none.mp hget
      refine ⟨?_, ?_, fun h => absurd h hout⟩
      · simp [Watcher.blockPropertiesChanged, hget]
      · simp [Watcher.blockPropertiesChanged, hget, Handled.launches]
  | some device =>
      have hmem := Dict.get?_eq_some.mp hget
      have hne : device ≠ "" := hdev _ hmem
      by_cases hluks : changed.get? "IdType" = some cryptoLuks
      · right
        refine ⟨device, hmem, ?_, ?_, ?_⟩
        · rw [hluks]
          decide
        · simp [Watcher.blockPropertiesChanged, hget, hne, hluks]
        · simp [Watcher.blockPropertiesChanged, hget, hne, hluks, Handled.launches]
      · by_cases hty : truthyGet (changed.get? "IdType") = true
        · right
          refine ⟨device, hmem, hty, ?_, ?_⟩
          · simp [Watcher.blockPropertiesChanged, hget, hne, hluks, hty]
          · simp [Watcher.blockPropertiesChanged, hget, hne, hluks, hty, Handled.launches]
        · left
          refine ⟨?_, ?_, fun _ => by simpa using hty⟩
          · simp [Watcher.blockPropertiesChanged, hget, hne, hluks, hty]
          · simp [Watcher.blockPropertiesChanged, hget, hne, hluks, hty, Handled.launches]

/-- The table is within its bound, and holds devices only. -/
structure Watcher.Valid (w : Watcher) : Prop where
  positive : 0 < w.maxPending
  bounded : w.pending.entries.length ≤ w.maxPending
  device_ne : ∀ x ∈ w.pending.entries, x.2 ≠ ""

lemma Watcher.valid_init (m : Option ℕ) : (Watcher.init m).Valid where
  positive := by
    simp only [Watcher.init]
    split_ifs with h
    · simp [watchPendingBlocksMax]
    · omega
  bounded := by simp [Watcher.init, EmptyCollection.emptyCollection]
  device_ne := by simp [Watcher.init, EmptyCollection.emptyCollection]

/-- A signal leaves the table within its bounds. -/
lemma Watcher.Valid.step {w : Watcher} (h : w.Valid) (e : Signal) :
    (w.step e).1.Valid ∧ (w.step e).1.maxPending = w.maxPending := by
  cases e with
  | interfacesAdded q interfaces =>
      simp only [Watcher.step]
      rcases w.interfacesAdded_cases q interfaces with
        ⟨hw, -⟩ | ⟨block, device, -, -, hdevice, hw, -⟩
      · rw [hw]
        exact ⟨h, rfl⟩
      · rw [hw]
        refine ⟨⟨h.positive, ?_, fun x hx => ?_⟩, rfl⟩
        · have hlt := Dict.length_evict_lt h.positive w.pending
          have hle := Dict.length_set_le (m := w.pending.evict w.maxPending) (k := q) (v := device)
          simp only
          omega
        · rcases Dict.mem_set.mp hx with ⟨-, hx2⟩ | ⟨-, hold⟩
          · exact hx2 ▸ decodeDevice_ne_empty hdevice
          · exact h.device_ne _ (Dict.mem_evict hold)
  | blockPropertiesChanged q changed =>
      simp only [Watcher.step]
      rcases w.blockPropertiesChanged_cases q changed h.device_ne with
        ⟨hw, -, -⟩ | ⟨device, -, -, hw, -⟩
      · rw [hw]
        exact ⟨h, rfl⟩
      · rw [hw]
        refine ⟨⟨h.positive, ?_, fun x hx => ?_⟩, rfl⟩
        · exact Dict.length_erase_le.trans h.bounded
        · exact h.device_ne _ (Dict.mem_erase.mp hx).2

lemma Watcher.Valid.after {w : Watcher} (h : w.Valid) (signals : List Signal) :
    (w.after signals).Valid ∧ (w.after signals).maxPending = w.maxPending := by
  induction signals generalizing w with
  | nil => exact ⟨h, rfl⟩
  | cons e signals ih =>
      obtain ⟨hstep, hmax⟩ := h.step e
      obtain ⟨hvalid, hrest⟩ := ih hstep
      exact ⟨hvalid, hrest.trans hmax⟩

/-! ## Launches and the history

What the table remembers has a reason among the signals that were handled.
-/

/-- An appearance without a type is the first of its kind. -/
lemma AddedTypeless.of_added {past : List Handled} {p : String} {r : Handled} {block : Properties}
    (hblock : r.signal.blockOf p = some block) (hty : ¬ Typed block) (hr : r.launches = []) :
    AddedTypeless (past ++ [r]) p :=
  ⟨past, r, [], block, rfl, hblock, hty, hr, by simp⟩

/-- It stays the last one until the object appears again or its type comes. -/
lemma AddedTypeless.extend {past : List Handled} {p : String} {r : Handled}
    (h : AddedTypeless past p) (hblock : r.signal.blockOf p = none)
    (hr : r.signal.object = p → r.launches = [])
    (hid : ¬ (truthyGet (r.signal.idTypeOf p) = true ∧ r.signal.idTypeOf p ≠ some cryptoLuks)) :
    AddedTypeless (past ++ [r]) p := by
  obtain ⟨before, r₀, after, block, rfl, hadd, hty, hr₀, hafter⟩ := h
  refine ⟨before, r₀, after ++ [r], block, by simp, hadd, hty, hr₀, ?_⟩
  intro r' hr'
  rcases List.mem_append.mp hr' with h | h
  · exact hafter r' h
  · rw [List.mem_singleton] at h
    subst h
    exact ⟨hblock, hr, hid⟩

/-- A signal about another object leaves the history of this one as it is. -/
lemma AddedTypeless.extend_other {past : List Handled} {p : String} {r : Handled}
    (h : AddedTypeless past p) (hne : r.signal.object ≠ p) : AddedTypeless (past ++ [r]) p := by
  refine h.extend ?_ (fun he => absurd he hne) ?_
  · cases hs : r.signal with
    | interfacesAdded q interfaces =>
        rw [hs] at hne
        exact if_neg hne
    | blockPropertiesChanged q changed => rfl
  · cases hs : r.signal with
    | interfacesAdded q interfaces => simp [Signal.idTypeOf, truthyGet]
    | blockPropertiesChanged q changed =>
        rw [hs] at hne
        simp [Signal.idTypeOf, truthyGet, show ¬ q = p from hne]

/-- The table agrees with the history: what is remembered was last added without a type. -/
structure Remembers (w : Watcher) (past : List Handled) : Prop where
  valid : w.Valid
  typeless : ∀ x ∈ w.pending.entries, AddedTypeless past x.1

lemma remembers_init (m : Option ℕ) : Remembers (Watcher.init m) [] where
  valid := Watcher.valid_init m
  typeless := by simp [Watcher.init, EmptyCollection.emptyCollection]

/-- One signal: the launch is accounted for, and the table still agrees with the history. -/
lemma Remembers.step {w : Watcher} {past : List Handled} {e : Signal} (h : Remembers w past)
    (he : ¬ RetypedWhilePending w e) :
    Remembers (w.step e).1 (past ++ [⟨e, (w.step e).2⟩]) ∧
      ((Handled.mk e (w.step e).2).launches ≠ [] → AccountedFor past e) := by
  have hvalid := (h.valid.step e).1
  cases e with
  | interfacesAdded q interfaces =>
      simp only [Watcher.step] at hvalid ⊢
      rcases w.interfacesAdded_cases q interfaces with
        ⟨hw, hl⟩ | ⟨block, device, hblock, hty, hdevice, hw, hl⟩
      · refine ⟨⟨hvalid, ?_⟩, fun hne => hl.resolve_left hne⟩
        rw [hw]
        intro x hx
        by_cases hq : q = x.1
        · -- the object itself: what is added has no type, or there is no Block at all
          cases hb : interfaces.get? udisks2BlockIface with
          | none =>
              have hl' : (Handled.mk (Signal.interfacesAdded q interfaces)
                  (w.interfacesAdded q interfaces).2).launches = [] := by
                rcases hl with hl | ⟨block, device, hblock, -⟩
                · exact hl
                · simp [hb] at hblock
              refine (h.typeless x hx).extend ?_ (fun _ => hl') ?_
              · simp [Signal.blockOf, hq, hb]
              · simp [Signal.idTypeOf, truthyGet]
          | some block =>
              have hown : (Signal.interfacesAdded q interfaces).blockOf x.1 = some block := by
                simp [Signal.blockOf, hq, hb]
              have hty : ¬ Typed block := fun hty =>
                he ⟨⟨block, hb, hty⟩, hq ▸ List.mem_map.mpr ⟨x, hx, rfl⟩⟩
              refine AddedTypeless.of_added hown hty (hl.resolve_right ?_)
              rintro ⟨block', device, hblock', hluks, -⟩
              rw [hb, Option.some.injEq] at hblock'
              exact hty (hblock' ▸ typed_of_cryptoLuks hluks)
        · exact (h.typeless x hx).extend_other hq
      · refine ⟨⟨hvalid, ?_⟩, fun hne => absurd hl hne⟩
        rw [hw]
        intro x hx
        rcases Dict.mem_set.mp hx with ⟨hx1, -⟩ | ⟨hne, hold⟩
        · refine AddedTypeless.of_added ?_ hty hl
          simp [Signal.blockOf, hx1, hblock]
        · exact (h.typeless _ (Dict.mem_evict hold)).extend_other (Ne.symm hne)
  | blockPropertiesChanged q changed =>
      simp only [Watcher.step] at hvalid ⊢
      rcases w.blockPropertiesChanged_cases q changed h.valid.device_ne with
        ⟨hw, hl, hkeep⟩ | ⟨device, hmem, hty, hw, hl⟩
      · refine ⟨⟨hvalid, ?_⟩, fun hne => absurd hl hne⟩
        rw [hw]
        intro x hx
        by_cases hq : q = x.1
        · have hfalse := hkeep (hq ▸ List.mem_map.mpr ⟨x, hx, rfl⟩)
          refine (h.typeless x hx).extend rfl (fun _ => hl) ?_
          simp [Signal.idTypeOf, hq, hfalse]
        · exact (h.typeless x hx).extend_other hq
      · refine ⟨⟨hvalid, ?_⟩, fun hne => ?_⟩
        · rw [hw]
          intro x hx
          obtain ⟨hne, hold⟩ := Dict.mem_erase.mp hx
          exact (h.typeless _ hold).extend_other (Ne.symm hne)
        · rw [hl] at hne
          refine ⟨?_, h.typeless _ hmem⟩
          by_contra hluks
          simp [hluks] at hne

/-- A run from a table that agrees with its history. -/
lemma Remembers.run {w : Watcher} {past : List Handled} {signals : List Signal}
    (h : Remembers w past) (hs : SettledBeforeRetyped w signals) {before after : List Handled}
    {r : Handled} (hrun : w.run signals = before ++ r :: after) (hr : r.launches ≠ []) :
    AccountedFor (past ++ before) r.signal := by
  induction signals generalizing w past before with
  | nil => simp [Watcher.run] at hrun
  | cons e signals ih =>
      obtain ⟨hnext, hlaunch⟩ := h.step hs.1
      cases before with
      | nil =>
          simp only [Watcher.run, List.nil_append, List.cons.injEq] at hrun
          rw [← hrun.1] at hr ⊢
          simpa using hlaunch hr
      | cons r₀ before =>
          simp only [Watcher.run, List.cons_append, List.cons.injEq] at hrun
          have hacc := ih hnext hs.2 hrun.2
          rw [← hrun.1]
          simpa using hacc

/-- A history whose launches are accounted for has no appearance launched twice. -/
lemma LaunchesAccountedFor.once {history : List Handled} (h : LaunchesAccountedFor history) :
    LaunchedOncePerAppearance history := by
  intro p before r₁ between r₂ after hsplit ho₁ hl₁ ho₂ hl₂
  have hacc := h (before ++ r₁ :: between) r₂ after (by simp [hsplit]) hl₂
  cases hs : r₂.signal with
  | interfacesAdded q interfaces =>
      rw [hs] at hacc ho₂
      obtain ⟨block, device, hblock, -⟩ := hacc
      refine ⟨r₂, by simp, ?_⟩
      simp [hs, Signal.blockOf, show q = p from ho₂, hblock]
  | blockPropertiesChanged q changed =>
      rw [hs] at hacc ho₂
      have hq : q = p := ho₂
      subst hq
      obtain ⟨-, pre, r, post, block, hpast, hadd, -, hr, hpost⟩ := hacc
      -- where the addition stands: before the first launch, at it, or after it
      rcases List.append_eq_append_iff.mp hpast with ⟨l, rfl, hl⟩ | ⟨l, rfl, hl⟩
      · cases l with
        | nil =>
            simp only [List.nil_append, List.cons.injEq] at hl
            exact absurd (hl.1 ▸ hr) hl₁
        | cons x l =>
            simp only [List.cons_append, List.cons.injEq] at hl
            refine ⟨r, by simp [hl.2], ?_⟩
            simp [hadd]
      · cases l with
        | nil =>
            simp only [List.nil_append, List.cons.injEq] at hl
            exact absurd (hl.1 ▸ hr) hl₁
        | cons x l =>
            simp only [List.cons_append, List.cons.injEq] at hl
            have hmem : r₁ ∈ post := by simp [hl.2]
            exact absurd ((hpost r₁ hmem).2.1 ho₁) hl₁

/-- **Launches are accounted for.**  In every run in which no object is added with its type known
while the watcher still waits for that type, the dialog is launched only for a volume that appears
as one, or at the late probe of an object that was last added without a type, with no launch and no
other type since.  So no appearance is launched twice. -/
theorem launches_accounted_for (maxPending : Option ℕ) (signals : List Signal)
    (h : SettledBeforeRetyped (Watcher.init maxPending) signals) :
    LaunchesAccountedFor ((Watcher.init maxPending).run signals) ∧
      LaunchedOncePerAppearance ((Watcher.init maxPending).run signals) := by
  have hacc : LaunchesAccountedFor ((Watcher.init maxPending).run signals) := by
    intro before r after hsplit hr
    exact (remembers_init maxPending).run h hsplit hr
  exact ⟨hacc, hacc.once⟩

/-- The Block interface of `/dev/sdb1`. -/
def sdb1 (idType : String) : Interfaces :=
  Dict.ofList [(udisks2BlockIface, Dict.ofList [("IdType", Value.text idType),
    ("Device", Value.octets [47, 100, 101, 118, 47, 115, 100, 98, 49, 0])])]

/-- The type of an object turns out to be LUKS. -/
def probedAsLuks (p : String) : Signal :=
  Signal.blockPropertiesChanged p (Dict.ofList [("IdType", cryptoLuks)])

/-- A late probe launches the device once. -/
theorem late_probe_accounted_for :
    let signals := [Signal.interfacesAdded "sdb1" (sdb1 ""), probedAsLuks "sdb1",
      probedAsLuks "sdb1"]
    ((Watcher.init none).run signals).map Handled.launches = [[], ["/dev/sdb1"], []] ∧
      LaunchesAccountedFor ((Watcher.init none).run signals) ∧
      LaunchedOncePerAppearance ((Watcher.init none).run signals) := by
  refine ⟨by decide +kernel, launches_accounted_for none _ ?_⟩
  decide +kernel

/-- What appears with its type is not waiting for one. -/
lemma not_addedTypeless_of_typed (past : List Handled) {p : String} {r : Handled}
    (h : ∃ block ∈ r.signal.blockOf p, Typed block) : ¬ AddedTypeless (past ++ [r]) p := by
  obtain ⟨block, hblock, hty⟩ := h
  rw [Option.mem_def] at hblock
  rintro ⟨before, r₀, after, block₀, hsplit, hadd, hty₀, -, hafter⟩
  rcases List.eq_nil_or_concat after with rfl | ⟨after, r', rfl⟩
  · have hr : r = r₀ := by simpa using congrArg List.getLast? hsplit
    rw [← hr, hblock, Option.some.injEq] at hadd
    exact hty₀ (hadd ▸ hty)
  · have hsplit' : past ++ [r] = (before ++ r₀ :: after) ++ [r'] := by simpa using hsplit
    have hr : r = r' := by simpa using (List.append_inj' hsplit' rfl).2
    have hnone := (hafter r' (by simp)).1
    rw [← hr, hblock] at hnone
    simp at hnone

/-- **An old entry launched.**  A device appears without a type and then again as ext4: a later
show to `crypto_LUKS` launches it from the entry of its first appearance.  If it appears again as
a volume, the dialog is launched at once and a second time at the late probe. -/
theorem old_entry_launched :
    ¬ LaunchesAccountedFor ((Watcher.init none).run
        [Signal.interfacesAdded "sdb1" (sdb1 ""), Signal.interfacesAdded "sdb1" (sdb1 "ext4"),
          probedAsLuks "sdb1"]) ∧
      ¬ LaunchedOncePerAppearance ((Watcher.init none).run
        [Signal.interfacesAdded "sdb1" (sdb1 ""),
          Signal.interfacesAdded "sdb1" (sdb1 "crypto_LUKS"), probedAsLuks "sdb1"]) := by
  constructor
  · intro h
    have hacc := h [_, _] _ [] rfl (by decide +kernel)
    exact not_addedTypeless_of_typed [_] (by decide +kernel) hacc.2
  · intro h
    obtain ⟨r, hr, hblock⟩ := h "sdb1" [_] _ [] _ [] rfl rfl (by decide +kernel) rfl
      (by decide +kernel)
    rw [List.nil_append, List.mem_singleton] at hr
    subst hr
    simp [probedAsLuks, Signal.blockOf] at hblock

/-! ## Late probes

What keeps an entry in its place until its type comes.
-/

/-- The device of an object that is added without a type. -/
def typelessDevice (interfaces : Interfaces) : Option String :=
  (udisks2PendingBlockDevice interfaces).join

/-- The object a signal adds without a type. -/
def Signal.typelessObject : Signal → Option String
  | interfacesAdded p interfaces =>
      match interfaces.get? udisks2BlockIface with
      | none => none
      | some block => if Typed block then none else some p
  | blockPropertiesChanged _ _ => none

/-- The other objects that some signals add without a type. -/
def typelessOthers (p : String) (signals : List Signal) : Finset String :=
  ((signals.filterMap Signal.typelessObject).filter (· ≠ p)).toFinset

/-- The object has the newest entry of a table with room: set again, it drops and moves nothing. -/
def Watcher.NewestWithRoom (w : Watcher) (p : String) : Prop :=
  w.pending.entries.length < w.maxPending ∧ w.pending.entries.getLast?.map Prod.fst = some p

instance (w : Watcher) (p : String) : Decidable (w.NewestWithRoom p) :=
  inferInstanceAs (Decidable (_ ∧ _))

/-- A signal adds a device without a type again, while the watcher already waits for its type, and the
table does not come out as if the old entry had been taken out first.  It does so where making room drops
that very entry, the oldest one of a full table, and where the entry is the newest one of a table with
room. -/
def AddedAgainWhilePending (w : Watcher) : Signal → Prop
  | Signal.interfacesAdded p interfaces =>
      (typelessDevice interfaces).isSome
        ∧ p ∈ (w.pending.evict w.maxPending).entries.map Prod.fst ∧ ¬ w.NewestWithRoom p
  | Signal.blockPropertiesChanged _ _ => False

/-- No signal of the run does so. -/
def SettledBeforeAddedAgain : Watcher → List Signal → Prop
  | _, [] => True
  | w, e :: signals => ¬ AddedAgainWhilePending w e ∧ SettledBeforeAddedAgain (w.step e).1 signals

instance (w : Watcher) : (e : Signal) → Decidable (AddedAgainWhilePending w e)
  | Signal.interfacesAdded _ _ => inferInstanceAs (Decidable (_ ∧ _))
  | Signal.blockPropertiesChanged _ _ => inferInstanceAs (Decidable False)

instance : (w : Watcher) → (signals : List Signal) → Decidable (SettledBeforeAddedAgain w signals)
  | _, [] => inferInstanceAs (Decidable True)
  | w, e :: signals =>
      have : Decidable (SettledBeforeAddedAgain (w.step e).1 signals) :=
        instDecidableSettledBeforeAddedAgain (w.step e).1 signals
      inferInstanceAs (Decidable (¬ AddedAgainWhilePending w e ∧ _))

/-- The late probe of an object after these signals: it launches this device, and nothing more is
launched for the object until it is added again. -/
def LaunchedExactlyOnce (w : Watcher) (p device : String) : Prop :=
  ∀ changed : Properties, changed.get? "IdType" = some cryptoLuks →
    (Handled.mk (Signal.blockPropertiesChanged p changed)
      (w.blockPropertiesChanged p changed).2).launches = [device] ∧
    ∀ later, (∀ e ∈ later, e.blockOf p = none) →
      ∀ r ∈ (w.blockPropertiesChanged p changed).1.run later, r.signal.object = p → r.launches = []

/-- Every late probe is honoured: if the object was last added without a type, with a device, fewer
other objects than the bound were added without a type since, and no type was reported for it, then
its probe launches that device exactly once. -/
def LateProbesHonoured (w : Watcher) (signals : List Signal) : Prop :=
  ∀ p before interfaces device between,
    signals = before ++ Signal.interfacesAdded p interfaces :: between →
    typelessDevice interfaces = some device →
    (∀ e ∈ between, e.blockOf p = none ∧ truthyGet (e.idTypeOf p) = false) →
    (typelessOthers p between).card < w.maxPending →
    LaunchedExactlyOnce (w.after signals) p device

/-- The device of an appearance without a type. -/
lemma typelessDevice_eq_some {interfaces : Interfaces} {device : String} :
    typelessDevice interfaces = some device ↔
      udisks2PendingBlockDevice interfaces = some (some device) := by
  simp [typelessDevice, Option.join_eq_some_iff]

/-- A device without a type is not picked as a volume. -/
lemma Watcher.interfacesAdded_typeless {w : Watcher} {p : String} {interfaces : Interfaces}
    {device : String} (h : typelessDevice interfaces = some device) :
    (w.interfacesAdded p interfaces).1 =
      { w with pending := (w.pending.evict w.maxPending).set p device } := by
  rw [typelessDevice_eq_some] at h
  obtain ⟨block, hblock, hty, -⟩ := pendingBlockDevice_some h
  have hpick : udisks2PickNewLuksDevice interfaces = some none := by
    by_cases hnil : block.entries = []
    · simp [udisks2PickNewLuksDevice, hblock, hnil]
    · have hluks : block.get? "IdType" ≠ some cryptoLuks := fun hl => hty (typed_of_cryptoLuks hl)
      simp [udisks2PickNewLuksDevice, hblock, hluks]
  simp [Watcher.interfacesAdded, hpick, h]

/-- An object that is not remembered is not launched, nor remembered, before it is added. -/
lemma Watcher.run_forgotten {w : Watcher} (hw : w.Valid) {p : String} {signals : List Signal}
    (hout : p ∉ w.pending.entries.map Prod.fst) (hs : ∀ e ∈ signals, e.blockOf p = none) :
    ∀ r ∈ w.run signals, r.signal.object = p → r.launches = [] := by
  induction signals generalizing w with
  | nil => simp [Watcher.run]
  | cons e signals ih =>
      have hstep : (e.object = p → (Handled.mk e (w.step e).2).launches = []) ∧
          p ∉ (w.step e).1.pending.entries.map Prod.fst := by
        have he := hs e (by simp)
        cases e with
        | interfacesAdded q interfaces =>
            simp only [Watcher.step]
            rcases w.interfacesAdded_cases q interfaces with
              ⟨hst, hl⟩ | ⟨block, device, hblock, -, -, hst, hl⟩
            · rw [hst]
              refine ⟨fun hq => hl.resolve_right ?_, hout⟩
              rintro ⟨block, device, hblock, -⟩
              simp [Signal.blockOf, show q = p from hq, hblock] at he
            · refine ⟨fun _ => hl, ?_⟩
              rw [hst]
              intro hmem
              obtain ⟨⟨j, v⟩, hx, rfl⟩ := List.mem_map.mp hmem
              rcases Dict.mem_set.mp hx with ⟨rfl, -⟩ | ⟨-, hold⟩
              · simp [Signal.blockOf, hblock] at he
              · exact hout (List.mem_map.mpr ⟨_, Dict.mem_evict hold, rfl⟩)
        | blockPropertiesChanged q changed =>
            simp only [Watcher.step]
            rcases w.blockPropertiesChanged_cases q changed hw.device_ne with
              ⟨hst, hl, -⟩ | ⟨device, hmem, -, hst, -⟩
            · rw [hst]
              exact ⟨fun _ => hl, hout⟩
            · refine ⟨fun hq => ?_, ?_⟩
              · rw [show q = p from hq] at hmem
                exact absurd (List.mem_map.mpr ⟨_, hmem, rfl⟩) hout
              · rw [hst]
                intro hmem
                obtain ⟨⟨j, v⟩, hx, rfl⟩ := List.mem_map.mp hmem
                exact hout (List.mem_map.mpr ⟨_, (Dict.mem_erase.mp hx).2, rfl⟩)
      intro r hr
      rw [Watcher.run, List.mem_cons] at hr
      rcases hr with rfl | hr
      · exact hstep.1
      · exact ih (hw.step e).1 hstep.2 (fun e' h => hs e' (by simp [h])) r hr

/-- The object is remembered with this device, and everything newer was added without a type by
these signals. -/
def NewerAmong (w : Watcher) (p device : String) (signals : List Signal) : Prop :=
  ∃ front back, w.pending.entries = front ++ (p, device) :: back ∧
    ∀ x ∈ back, x.1 ∈ typelessOthers p signals

lemma mem_typelessOthers {p q : String} {signals : List Signal} :
    q ∈ typelessOthers p signals ↔ (∃ e ∈ signals, e.typelessObject = some q) ∧ q ≠ p := by
  simp [typelessOthers]

lemma typelessOthers_mono {p : String} {l l' : List Signal} (h : l ⊆ l') :
    typelessOthers p l ⊆ typelessOthers p l' := by
  intro q hq
  rw [mem_typelessOthers] at hq ⊢
  obtain ⟨⟨e, he, hobj⟩, hne⟩ := hq
  exact ⟨⟨e, h he, hobj⟩, hne⟩

/-- The entries newer than the object's own are other objects. -/
lemma NewerAmong.nodup_back {w : Watcher} {p device : String} {front back : List (String × String)}
    (hsplit : w.pending.entries = front ++ (p, device) :: back) : (back.map Prod.fst).Nodup := by
  have hall := w.pending.nodup
  rw [hsplit] at hall
  simp only [List.map_append, List.map_cons, List.nodup_append, List.nodup_cons] at hall
  exact hall.2.1.2

lemma NewerAmong.length_back {w : Watcher} {p device : String} {front back : List (String × String)}
    {others : Finset String} (hsplit : w.pending.entries = front ++ (p, device) :: back)
    (hback : ∀ x ∈ back, x.1 ∈ others) : back.length ≤ others.card := by
  have hsub : (back.map Prod.fst).toFinset ⊆ others := by
    intro j hj
    obtain ⟨x, hx, rfl⟩ := List.mem_map.mp (List.mem_toFinset.mp hj)
    exact hback x hx
  calc back.length = (back.map Prod.fst).toFinset.card := by
        rw [List.toFinset_card_of_nodup (nodup_back hsplit), List.length_map]
    _ ≤ others.card := Finset.card_le_card hsub

lemma NewerAmong.room {w : Watcher} {p q device : String} {front back : List (String × String)}
    {others : Finset String} (hsplit : w.pending.entries = front ++ (p, device) :: back)
    (hback : ∀ x ∈ back, x.1 ∈ others) (hq : q ∈ others) (hq' : q ∉ back.map Prod.fst) :
    back.length + 1 ≤ others.card := by
  have hnodup := nodup_back hsplit
  have hsub : insert q (back.map Prod.fst).toFinset ⊆ others := by
    intro j hj
    rcases Finset.mem_insert.mp hj with rfl | hj
    · exact hq
    · obtain ⟨x, hx, rfl⟩ := List.mem_map.mp (List.mem_toFinset.mp hj)
      exact hback x hx
  calc back.length + 1 = (insert q (back.map Prod.fst).toFinset).card := by
        rw [Finset.card_insert_of_notMem (by simpa using hq'), List.toFinset_card_of_nodup hnodup,
          List.length_map]
    _ ≤ others.card := Finset.card_le_card hsub

/-- What making room has dropped is none of the entries that are newer. -/
lemma NewerAmong.evicted {w : Watcher} {p q device : String} {front back : List (String × String)}
    (hsplit : w.pending.entries = front ++ (p, device) :: back) (hlt : back.length < w.maxPending)
    (hout : q ∉ (w.pending.evict w.maxPending).entries.map Prod.fst) : q ∉ back.map Prod.fst := by
  intro hmem
  apply hout
  obtain ⟨front', hfront⟩ :=
    Dict.evictEntries_append w.maxPending (front ++ [(p, device)]) back hlt
  rw [List.append_assoc, List.singleton_append, ← hsplit] at hfront
  show q ∈ (Dict.evictEntries w.maxPending w.pending.entries).map Prod.fst
  rw [hfront, List.map_append]
  exact List.mem_append_right _ hmem

/-- A newest entry in a table with room is set in its place. -/
lemma Watcher.NewestWithRoom.set {w : Watcher} {q d : String} (h : w.NewestWithRoom q) :
    ∃ older old, w.pending.entries = older ++ [(q, old)]
      ∧ ((w.pending.evict w.maxPending).set q d).entries = older ++ [(q, d)] := by
  obtain ⟨hfree, hnewest⟩ := h
  obtain ⟨⟨q', old⟩, hlast, hq⟩ := Option.map_eq_some_iff.mp hnewest
  obtain rfl : q' = q := hq
  obtain ⟨older, hentries⟩ := List.getLast?_eq_some_iff.mp hlast
  have hnodup := w.pending.nodup
  have hkept : (w.pending.evict w.maxPending).entries = w.pending.entries :=
    Dict.evictEntries_of_length_lt hfree
  refine ⟨older, old, hentries, ?_⟩
  rw [hentries, List.map_append, List.map_singleton] at hnodup
  show Dict.setEntry q' d (w.pending.evict w.maxPending).entries = older ++ [(q', d)]
  rw [hkept, hentries]
  exact Dict.setEntry_newest fun hmem =>
    (List.nodup_append.mp hnodup).2.2 _ hmem _ (List.mem_singleton_self _) rfl

/-- An object that is added without a type has the newest entry. -/
lemma NewerAmong.start {w : Watcher} {p device : String} {interfaces : Interfaces}
    (hagain : ¬ AddedAgainWhilePending w (Signal.interfacesAdded p interfaces))
    (hdevice : typelessDevice interfaces = some device) :
    NewerAmong (w.step (Signal.interfacesAdded p interfaces)).1 p device [] := by
  simp only [Watcher.step, Watcher.interfacesAdded_typeless hdevice]
  by_cases hmem : p ∈ (w.pending.evict w.maxPending).entries.map Prod.fst
  · have hnewest : w.NewestWithRoom p := by
      by_contra hnot
      exact hagain ⟨by simp [hdevice], hmem, hnot⟩
    obtain ⟨older, -, -, hset⟩ := @Watcher.NewestWithRoom.set w p device hnewest
    exact ⟨older, [], hset, by simp⟩
  · exact ⟨_, [], Dict.setEntry_of_not_mem hmem, by simp⟩

/-- The entry of another object is set behind this one: in its place if it is the newest, and else as
a new one, for which there is room without dropping this one. -/
lemma NewerAmong.set {w : Watcher} {p q device d : String} {front back : List (String × String)}
    {others : Finset String} (hsplit : w.pending.entries = front ++ (p, device) :: back)
    (hback : ∀ x ∈ back, x.1 ∈ others) (hqp : q ≠ p) (hq : q ∈ others)
    (hroom : others.card < w.maxPending)
    (hsettled : q ∈ (w.pending.evict w.maxPending).entries.map Prod.fst → w.NewestWithRoom q) :
    ∃ front' back', ((w.pending.evict w.maxPending).set q d).entries = front' ++ (p, device) :: back'
      ∧ ∀ x ∈ back', x.1 ∈ others := by
  have hbehind : ∀ newer : List (String × String), (∀ x ∈ newer, x.1 ∈ others) →
      ∀ x ∈ newer ++ [(q, d)], x.1 ∈ others := by
    intro newer hnewer x hx
    rcases List.mem_append.mp hx with hx | hx
    · exact hnewer x hx
    · rw [List.mem_singleton] at hx
      subst hx
      exact hq
  by_cases hmem : q ∈ (w.pending.evict w.maxPending).entries.map Prod.fst
  · -- the entry is the newest, and stays where it is with another device
    obtain ⟨older, old, hentries, hset⟩ := @Watcher.NewestWithRoom.set w q d (hsettled hmem)
    rw [hsplit] at hentries
    rcases List.eq_nil_or_concat' back with rfl | ⟨newer, last, rfl⟩
    · have hlast := (List.append_inj' hentries rfl).2
      exact absurd (congrArg Prod.fst (List.singleton_inj.mp hlast)).symm hqp
    · rw [← List.cons_append, ← List.append_assoc] at hentries
      obtain ⟨hkept, hlast⟩ := List.append_inj' hentries rfl
      obtain rfl := List.singleton_inj.mp hlast
      refine ⟨front, newer ++ [(q, d)], ?_,
        hbehind newer fun x hx => hback x (List.mem_append_left _ hx)⟩
      rw [hset, ← hkept]
      simp
  · -- the entry is not there any more when it is set
    have hout : q ∉ back.map Prod.fst :=
      NewerAmong.evicted hsplit ((NewerAmong.length_back hsplit hback).trans_lt hroom) hmem
    have hlen := NewerAmong.room hsplit hback hq hout
    obtain ⟨front', hfront⟩ := Dict.evictEntries_append w.maxPending front
      ((p, device) :: back) (by simp only [List.length_cons]; omega)
    refine ⟨front', back ++ [(q, d)], ?_, hbehind back hback⟩
    simp only [Dict.set, Dict.setEntry_of_not_mem hmem]
    simp only [Dict.evict, hsplit, hfront]
    simp

/-- One signal about other objects: there is room for its entry without dropping this one. -/
lemma NewerAmong.step {w : Watcher} (hw : w.Valid) {p device : String} {past : List Signal}
    {e : Signal} (h : NewerAmong w p device past) (hagain : ¬ AddedAgainWhilePending w e)
    (hp : e.blockOf p = none ∧ truthyGet (e.idTypeOf p) = false)
    (hroom : (typelessOthers p (past ++ [e])).card < w.maxPending) :
    NewerAmong (w.step e).1 p device (past ++ [e]) := by
  obtain ⟨front, back, hsplit, hback⟩ := h
  have hback' : ∀ x ∈ back, x.1 ∈ typelessOthers p (past ++ [e]) := fun x hx =>
    typelessOthers_mono (by simp) (hback x hx)
  cases e with
  | interfacesAdded q interfaces =>
      simp only [Watcher.step]
      cases hd : typelessDevice interfaces with
      | none =>
          rcases w.interfacesAdded_cases q interfaces with
            ⟨hst, -⟩ | ⟨block, d, hblock, hty, hdecode, hst, -⟩
          · rw [hst]
            exact ⟨front, back, hsplit, hback'⟩
          · have hne : block.entries ≠ [] := by
              intro hnil
              simp [Dict.get?, hnil, udisks2DecodeDevice] at hdecode
            have hsome : typelessDevice interfaces = some d := by
              rw [typelessDevice_eq_some, udisks2PendingBlockDevice, hblock]
              simp only [Typed] at hty
              simp [hne, hty, hdecode]
            simp [hd] at hsome
      | some d =>
          obtain ⟨block, hblock, hty, -⟩ := pendingBlockDevice_some (typelessDevice_eq_some.mp hd)
          have hqp : q ≠ p := by
            rintro rfl
            simp [Signal.blockOf, hblock] at hp
          have hq : q ∈ typelessOthers p (past ++ [Signal.interfacesAdded q interfaces]) := by
            rw [mem_typelessOthers]
            refine ⟨⟨Signal.interfacesAdded q interfaces, by simp, ?_⟩, hqp⟩
            simp [Signal.typelessObject, hblock, hty]
          rw [Watcher.interfacesAdded_typeless hd]
          exact NewerAmong.set hsplit hback' hqp hq hroom fun hmem =>
            by_contra fun hnot => hagain ⟨by simp [hd], hmem, hnot⟩
  | blockPropertiesChanged q changed =>
      simp only [Watcher.step]
      rcases w.blockPropertiesChanged_cases q changed hw.device_ne with
        ⟨hst, -, -⟩ | ⟨d, -, hty, hst, -⟩
      · rw [hst]
        exact ⟨front, back, hsplit, hback'⟩
      · have hqp : p ≠ q := by
          rintro rfl
          simp [Signal.idTypeOf, hty] at hp
        rw [hst]
        refine ⟨front.filter fun x => x.1 ≠ q, back.filter fun x => x.1 ≠ q, ?_, fun x hx => ?_⟩
        · simp [Dict.erase, hsplit, List.filter_append, hqp]
        · exact hback' x (List.mem_filter.mp hx).1

/-- What is newer than an entry stays among those that appeared after it. -/
lemma NewerAmong.run {w : Watcher} (hw : w.Valid) {p device : String} {past signals : List Signal}
    (h : NewerAmong w p device past) (hagain : SettledBeforeAddedAgain w signals)
    (hp : ∀ e ∈ signals, e.blockOf p = none ∧ truthyGet (e.idTypeOf p) = false)
    (hroom : (typelessOthers p (past ++ signals)).card < w.maxPending) :
    NewerAmong (w.after signals) p device (past ++ signals) := by
  induction signals generalizing w past with
  | nil => simpa [Watcher.after] using h
  | cons e signals ih =>
      have hhead : (typelessOthers p (past ++ [e])).card < w.maxPending :=
        (Finset.card_le_card (typelessOthers_mono (by simp))).trans_lt hroom
      have hnext := h.step hw hagain.1 (hp e (by simp)) hhead
      obtain ⟨hvalid, hmax⟩ := hw.step e
      have hrest := ih hvalid hnext hagain.2 (fun e' he' => hp e' (by simp [he']))
        (by rw [hmax]; simpa using hroom)
      simpa [Watcher.after] using hrest

/-- What is remembered is launched by its probe, and only once. -/
lemma NewerAmong.launches {w : Watcher} (hw : w.Valid) {p device : String} {past : List Signal}
    (h : NewerAmong w p device past) : LaunchedExactlyOnce w p device := by
  obtain ⟨front, back, hsplit, -⟩ := h
  intro changed hluks
  have hmem : (p, device) ∈ w.pending.entries := by simp [hsplit]
  have hget : w.pending.get? p = some device := Dict.get?_eq_some.mpr hmem
  have hne : device ≠ "" := hw.device_ne _ hmem
  constructor
  · simp [Watcher.blockPropertiesChanged, hget, hne, hluks, Handled.launches]
  · intro later hlater
    refine Watcher.run_forgotten (hw.step (Signal.blockPropertiesChanged p changed)).1 ?_ hlater
    simp [Watcher.step, Watcher.blockPropertiesChanged, hget, hne, hluks, Dict.erase]

/-- A condition on a run is one on each part of it. -/
lemma SettledBeforeAddedAgain.append {w : Watcher} {l l' : List Signal}
    (h : SettledBeforeAddedAgain w (l ++ l')) : SettledBeforeAddedAgain (w.after l) l' := by
  induction l generalizing w with
  | nil => exact h
  | cons e l ih => exact ih h.2

/-- **No late probe is lost.**  The table never holds more entries than its bound.  In every run in
which no device is added again without a type while the watcher already waits for its type, where that
drops another entry or leaves its own in an old place, the probe of an object launches the device of its
latest addition exactly once, if fewer other objects than the bound were added without a type since. -/
theorem late_probe_launches (maxPending : ℕ) (hpos : 1 ≤ maxPending) (signals : List Signal) :
    ((Watcher.init (some maxPending)).after signals).pending.entries.length ≤ maxPending ∧
      (SettledBeforeAddedAgain (Watcher.init (some maxPending)) signals →
        LateProbesHonoured (Watcher.init (some maxPending)) signals) := by
  have hinit := Watcher.valid_init (some maxPending)
  have hmax : (Watcher.init (some maxPending)).maxPending = maxPending := by
    simp [Watcher.init, show maxPending ≠ 0 by omega]
  constructor
  · obtain ⟨hvalid, hkept⟩ := hinit.after signals
    exact (hvalid.bounded.trans_eq hkept).trans_eq hmax
  · intro hagain p before interfaces device between hsplit hdevice hp hroom
    subst hsplit
    obtain ⟨hvalid, hkept⟩ := hinit.after before
    have hrest := hagain.append
    obtain ⟨hvalid', hkept'⟩ := hvalid.step (Signal.interfacesAdded p interfaces)
    -- the new entry is the newest
    have hstart : NewerAmong (((Watcher.init (some maxPending)).after before).step
        (Signal.interfacesAdded p interfaces)).1 p device [] := NewerAmong.start hrest.1 hdevice
    have hend := hstart.run hvalid' hrest.2 hp (by rw [hkept', hkept]; exact hroom)
    have hafter : (Watcher.init (some maxPending)).after
        (before ++ Signal.interfacesAdded p interfaces :: between) =
        (((Watcher.init (some maxPending)).after before).step
          (Signal.interfacesAdded p interfaces)).1.after between := by
      simp [Watcher.after]
    rw [hafter]
    exact hend.launches (hvalid'.after between).1

/-- With room for two, a second device does not push out the first. -/
theorem late_probe_launches_two :
    let signals := [Signal.interfacesAdded "sdb1" (sdb1 ""), Signal.interfacesAdded "sdc1" (sdb1 "")]
    ((Watcher.init (some 2)).after signals).pending.entries.length ≤ 2 ∧
      LaunchedExactlyOnce ((Watcher.init (some 2)).after signals) "sdb1" "/dev/sdb1" := by
  obtain ⟨hbound, hprobe⟩ := late_probe_launches 2 (by decide)
    [Signal.interfacesAdded "sdb1" (sdb1 ""), Signal.interfacesAdded "sdc1" (sdb1 "")]
  refine ⟨hbound, hprobe (by decide +kernel) "sdb1" [] (sdb1 "") "/dev/sdb1" _ rfl
    (by decide +kernel) ?_ (by decide +kernel)⟩
  intro e he
  rw [List.mem_singleton] at he
  subst he
  decide +kernel

/-- **A newer entry dropped.**  With room for two, the second device is added twice: the first is
pushed out although it was the only other one, and its late probe launches nothing. -/
theorem newer_entry_dropped :
    ¬ LateProbesHonoured (Watcher.init (some 2))
      [Signal.interfacesAdded "sdb1" (sdb1 ""), Signal.interfacesAdded "sdc1" (sdb1 ""),
        Signal.interfacesAdded "sdc1" (sdb1 "")] := by
  intro h
  have hlost := h "sdb1" [] (sdb1 "") "/dev/sdb1" [Signal.interfacesAdded "sdc1" (sdb1 ""),
    Signal.interfacesAdded "sdc1" (sdb1 "")] rfl (by decide +kernel) ?_ (by decide +kernel)
    (Dict.ofList [("IdType", cryptoLuks)]) (by decide +kernel)
  · exact absurd hlost.1 (by decide +kernel)
  · intro e he
    have he' : e = Signal.interfacesAdded "sdc1" (sdb1 "") := by simpa using he
    subst he'
    decide +kernel

end LuksEnroll

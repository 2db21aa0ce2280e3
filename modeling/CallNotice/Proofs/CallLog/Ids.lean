import CallNotice.Proofs.CallLog.Settling
import CallNotice.Proofs.CallLog.Turns
import CallNotice.Proofs.Damage

namespace CallNotice

open Files Act Journal

namespace CallLogJournal

variable {path : String} {s s' : Scene} {fs fs' : Files}

structure Intact (path : String) (fs : Files) : Prop where
  readable : Readable path fs
  tail : tail (fs.held path) = []

theorem Intact.leaves (h : Intact path fs) (hleaves : Leaves path fs fs') : Intact path fs' := by
  refine ⟨hleaves.readable h.readable, ?_⟩
  rw [hleaves.held h.readable]
  exact h.tail

theorem Intact.kept (h : Intact path fs) (hopen : IsOpen path fs) : Kept path (rows path fs) fs :=
  ⟨hopen, h.tail, rfl⟩

end CallLogJournal

namespace CallLogStore

open CallLogJournal

variable {store next : CallLogStore} {request : CallLogRequest} {answer : CallLogAnswer} {path : String}
  {s s' : Scene}

end CallLogStore

end CallNotice

/-
How `save` puts the bytes into the file: through a temporary file next to it, which is then renamed. Each of its calls
on the file system may fail.
-/
import RdmaBuffer.Lib.Files
import RdmaBuffer.Registry.Save

namespace RdmaBuffer

/-- What the file system does with the calls of one `save`: which of them succeed, and the contents the temporary file
goes through while it is written. -/
structure SaveFaults where
  opens : Bool := true
  drafts : List Bytes := []
  writes : Bool := true
  removes : Bool := true
  renames : Bool := true

structure SaveResult where
  ok : Bool := false
  err : StdString := []

/-- The temporary file. -/
def tmpPath (path : StdString) : StdString := path ++ lit ".tmp"

/-- The calls of `save` that change files, in order, and its result. -/
def saveScript (blob : Bytes) (path : StdString) (faults : SaveFaults) :
    List (FileOp StdString Bytes) × SaveResult :=
  let tmp := tmpPath path
  if !faults.opens then ([], { err := lit "IO_ERROR_OPEN" })
  else
    let opened := [FileOp.put tmp []]
    let drafted := opened ++ faults.drafts.map (.put tmp)
    if !faults.writes then (drafted, { err := lit "IO_ERROR_WRITE" })
    else
      let written := drafted ++ [.put tmp blob]
      -- whether the old file could be removed is not looked at
      let removed := if faults.removes then written ++ [.remove path] else written
      if !faults.renames then (removed, { err := lit "IO_ERROR_WRITE" })
      else (removed ++ [.rename tmp path], { ok := true })

namespace Rdmabuffer

variable {β : Type} [IBackend β]

def save (s : Rdmabuffer β) (files : Files StdString Bytes) (path : StdString) (faults : SaveFaults) :
    Files StdString Bytes × SaveResult :=
  let (ops, result) := saveScript s.saveBlob path faults
  (FileOp.run files ops, result)

/-- The files at every point of a `save`, the last of them those it leaves. -/
def savePoints (s : Rdmabuffer β) (files : Files StdString Bytes) (path : StdString) (faults : SaveFaults) :
    List (Files StdString Bytes) :=
  FileOp.points files (saveScript s.saveBlob path faults).1

end Rdmabuffer

end RdmaBuffer

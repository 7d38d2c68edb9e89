import Steward.Json.Access
import Steward.Shell.State

/-!
Described programs as JSON documents: how they answer, and how they were started.
-/
namespace Steward.Shell

open Steward.Json

/-- An exit code keeps its last eight bits. -/
def Answering.ofDocument (j : Value) : Answering :=
  ⟨j.textAt "prog", j.textsAt "args", j.textAt "stdout", j.textAt "stderr",
    (Int.emod (j.intAt "code" 0) 256).toNat⟩

/-- A temporary script is shown by its extension. -/
def Started.document (s : Started) : Value :=
  let args := s.args.map fun
    | .text a => Value.text a
    | .scriptPath => Value.text ("<script>" ++ (s.script.map (·.extension)).getD "")
  let frontend := s.frontend.toList.map fun f => ("debian_frontend", Value.text f)
  let script := s.script.toList.map fun f => ("script", Value.text f.code)
  .object ([("prog", .text s.program), ("args", .list args)] ++ frontend ++ script)

end Steward.Shell

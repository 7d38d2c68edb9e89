/-!
Guards of operations that must never overlap. Acquiring a guard never waits: it succeeds exactly when
the guard is free. Releasing a free guard does nothing.
-/
namespace Steward

inductive Guard where
  | osUpdateScan
  | osUpdateInstall
  | selfUpdate
deriving DecidableEq, Repr

namespace Guard

def all : List Guard := [osUpdateScan, osUpdateInstall, selfUpdate]

def name : Guard → String
  | osUpdateScan => "os-update-scan"
  | osUpdateInstall => "os-update-install"
  | selfUpdate => "self-update"

def ofName? (name : String) : Option Guard := all.find? (·.name == name)

end Guard

structure GuardSet where
  isHeld : Guard → Bool

namespace GuardSet

def free : GuardSet := ⟨fun _ => false⟩

def set (s : GuardSet) (g : Guard) (held : Bool) : GuardSet :=
  ⟨fun other => if other = g then held else s.isHeld other⟩

/-- Whether the guard was free, and the set in which it is held. -/
def acquire (s : GuardSet) (g : Guard) : Bool × GuardSet := (!s.isHeld g, s.set g true)

def release (s : GuardSet) (g : Guard) : GuardSet := s.set g false

end GuardSet

/-- Permits by the name under which they are kept. A permit frees its guard when it is dropped. -/
structure PermitBook where
  guards : GuardSet
  permits : List (String × Guard)

namespace PermitBook

def empty : PermitBook := ⟨.free, []⟩

/-- Drops the permit kept under `id`, if there is one. -/
def drop (b : PermitBook) (id : String) : Bool × PermitBook :=
  match b.permits.lookup id with
  | none => (false, b)
  | some g => (true, ⟨b.guards.release g, b.permits.filter (·.1 != id)⟩)

/-- Takes a permit. An earlier one of the same name is dropped after that, which frees its guard even
when it is the guard just taken. -/
def hold (b : PermitBook) (id : String) (g : Guard) : Bool × PermitBook :=
  match b.guards.acquire g with
  | (false, _) => (false, b)
  | (true, guards) =>
    let (_, old) := { b with guards }.drop id
    (true, { old with permits := (id, g) :: old.permits })

end PermitBook
end Steward

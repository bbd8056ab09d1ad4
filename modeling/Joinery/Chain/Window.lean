import Joinery.Chain.Cursor

/-!
Collecting a window of results: some rows are skipped unread, then results are
built one by one until the limit, the end or the first failure. Nothing is asked
for beyond that point, and nothing at all under a limit of zero.
-/
namespace Joinery

structure Window where
  start : Nat
  limit : Option Nat
deriving DecidableEq, Repr

def Window.all : Window := ⟨0, none⟩

structure Collected (τ : Type) where
  results : List τ
  pulls : Nat
  failure : Option Error

namespace Collected
variable {τ : Type}

def stop (failure : Option Error) : Collected τ := ⟨[], 1, failure⟩

def afterSkip (c : Collected τ) : Collected τ := { c with pulls := c.pulls + 1 }

def afterResult (x : τ) (c : Collected τ) : Collected τ :=
  ⟨x :: c.results, c.pulls + 1, c.failure⟩

/-- `skip` rows are still to be passed over, then at most `left` results taken. -/
def drain (build : Row → Except Error τ) (wrap : String → Error) :
    Nat → Option Nat → List Event → Collected τ
  | _, _, [] => stop none
  | _, _, .failure cause :: _ => stop (some (wrap cause))
  | skip + 1, left, .row _ :: rest => afterSkip (drain build wrap skip left rest)
  | 0, left, .row r :: rest =>
    match build r with
    | .error e => stop (some e)
    | .ok x =>
      match left with
      | none => afterResult x (drain build wrap 0 none rest)
      | some n =>
        if n ≤ 1 then ⟨[x], 1, none⟩
        else afterResult x (drain build wrap 0 (some (n - 1)) rest)

def window (w : Window) (build : Row → Except Error τ) (wrap : String → Error)
    (events : List Event) : Collected τ :=
  if w.limit = some 0 then ⟨[], 0, none⟩ else drain build wrap w.start w.limit events

end Collected
end Joinery

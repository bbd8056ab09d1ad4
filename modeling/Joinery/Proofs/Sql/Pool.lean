import Joinery.Sql.Pool

/-!
What the idle queries of a pool are. All of them are as good as new and there are at most
as many as the capacity allows, which taking a query out and giving one back both keep.
-/
namespace Joinery.Sql.Pool

structure Sound (p : Pool) : Prop where
  reset : ∀ q ∈ p.idle, q = Query.empty
  bounded : p.idle.length ≤ p.capacity

theorem sound_ofCapacity (capacity : Nat) : Sound (ofCapacity capacity) where
  reset q member := by cases member
  bounded := Nat.zero_le capacity

variable {p : Pool}

theorem checkout_fresh (sound : Sound p) : p.checkout.1 = Query.empty := by
  unfold checkout
  cases idle : p.idle with
  | nil => rfl
  | cons q rest => exact sound.reset q (by rw [idle]; exact List.mem_cons_self)

theorem checkout_idle (p : Pool) :
    p.checkout.2.idle.length = p.idle.length - 1 ∧ p.checkout.2.capacity = p.capacity := by
  unfold checkout
  cases idle : p.idle with
  | nil => simp [idle]
  | cons q rest => simp

theorem sound_checkout (sound : Sound p) : Sound p.checkout.2 := by
  constructor
  · intro q member
    apply sound.reset q
    unfold checkout at member
    cases idle : p.idle with
    | nil => simp [idle] at member
    | cons q' rest =>
      rw [idle] at member
      exact List.mem_cons_of_mem q' member
  · have counts := checkout_idle p
    have bound := sound.bounded
    omega

theorem giveBack_idle (p : Pool) (q : Query) :
    (p.giveBack q).idle.length =
        (if p.idle.length < p.capacity then p.idle.length + 1 else p.idle.length) ∧
      (p.giveBack q).capacity = p.capacity := by
  unfold giveBack
  split <;> simp

theorem sound_giveBack (sound : Sound p) (q : Query) : Sound (p.giveBack q) := by
  constructor
  · intro q' member
    unfold giveBack at member
    split at member
    · rcases List.mem_cons.mp member with rfl | old
      · rfl
      · exact sound.reset q' old
    · exact sound.reset q' member
  · have counts := giveBack_idle p q
    have bound := sound.bounded
    split at counts <;> omega

theorem idle_exchange (sound : Sound p) (q : Query) :
    (p.checkout.2.giveBack q).idle.length =
      if 0 < p.idle.length then p.idle.length else min 1 p.capacity := by
  have out := checkout_idle p
  have back := giveBack_idle p.checkout.2 q
  have bound := sound.bounded
  rw [back.1, out.1, out.2]
  split <;> split <;> omega

end Joinery.Sql.Pool

/-
Tickets dealt in a row, from any number on.

The counter has 32 bits and a ticket 31, so the two wrap at different numbers; but the one range is a multiple of the
other, and no ticket is left out or dealt twice where either of them wraps.

- `TicketCounter.deals`, `deals_eq`: tickets dealt one after another, and which they are;
- `nth_eq_nth_iff`: when two of them are the same;
- `Ticket.compare_eq_lt_iff`, `toNat_value_nth_of_no_wrap`: their order, up to the next ticket 0;
- `TicketCounter.tickets_told`: the whole of it.
-/
import Mathlib.Algebra.Group.Int.Defs
import BoardDriver.Proofs.Tickets

namespace BoardDriver

/-- the order of tickets is that of their numbers -/
theorem Ticket.compare_eq_lt_iff (t u : Ticket) : t.compare u = .lt ↔ t.value.toNat < u.value.toNat := by
  rw [← UInt32.lt_iff_toNat_lt]
  exact compareOfLessAndEq_eq_lt

namespace TicketCounter

def deals : Nat → TicketCounter → List Ticket × TicketCounter
  | 0, c => ([], c)
  | n + 1, c => (c.deal.1 :: (deals n c.deal.2).1, (deals n c.deal.2).2)

theorem deals_after (c : TicketCounter) (n k : Nat) :
    deals n (c.after k) = ((List.range' k n).map c.nth, c.after (k + n)) := by
  induction n generalizing k with
  | zero => rfl
  | succ n ih => rw [deals, deal_after, ih, List.range'_succ, List.map_cons, Nat.add_right_comm, Nat.add_assoc]

theorem deals_eq (c : TicketCounter) (n : Nat) : deals n c = ((List.range n).map c.nth, c.after n) := by
  have h := c.deals_after n 0
  rwa [after_zero, ← List.range_eq_range', Nat.zero_add] at h

theorem getElem?_deals {c : TicketCounter} {n i : Nat} {t : Ticket} :
    (deals n c).1[i]? = some t ↔ i < n ∧ c.nth i = t := by
  rw [deals_eq, List.getElem?_map, Option.map_eq_some_iff]
  constructor
  · rintro ⟨k, hk, ht⟩
    obtain ⟨hlt, rfl⟩ := List.getElem?_eq_some_iff.1 hk
    rw [List.length_range] at hlt
    rw [List.getElem_range] at ht
    exact ⟨hlt, ht⟩
  · rintro ⟨hlt, ht⟩
    exact ⟨i, List.getElem?_range hlt, ht⟩

section

variable (c : TicketCounter) {i j : Nat}

theorem nth_eq_nth_iff : c.nth i = c.nth j ↔ (2 ^ 31 : Int) ∣ j - i := by
  have hvalue : c.nth i = c.nth j ↔ (c.nth i).value.toNat = (c.nth j).value.toNat := by
    rw [UInt32.toNat_inj]
    exact ⟨congrArg Ticket.value, fun h => congrArg Ticket.mk h⟩
  rw [hvalue, toNat_value_nth, toNat_value_nth]
  omega

theorem toNat_value_nth_succ : (c.nth (i + 1)).value.toNat = ((c.nth i).value.toNat + 1) % 2 ^ 31 := by
  rw [toNat_value_nth, toNat_value_nth]
  omega

theorem value_nth_eq_zero_iff : (c.nth i).value = 0 ↔ (c.last.toNat + (i + 1)) % 2 ^ 31 = 0 := by
  rw [← UInt32.toNat_inj, toNat_value_nth]
  rfl

/-- the order goes down where the next ticket is 0 -/
theorem compare_nth_succ : (c.nth (i + 1)).compare (c.nth i) = .lt ↔ (c.nth (i + 1)).value = 0 := by
  rw [Ticket.compare_eq_lt_iff, value_nth_eq_zero_iff, toNat_value_nth, toNat_value_nth]
  omega

/-- without a ticket 0 in between, tickets go up by one each -/
theorem toNat_value_nth_of_no_wrap (d : Nat) (h : ∀ k, i < k → k ≤ i + d → (c.nth k).value ≠ 0) :
    (c.nth (i + d)).value.toNat = (c.nth i).value.toNat + d := by
  induction d with
  | zero => rfl
  | succ d ih =>
    have hbefore := ih fun k hik hk => h k hik (by omega)
    have hnext := h (i + d + 1) (by omega) (by omega)
    rw [ne_eq, value_nth_eq_zero_iff] at hnext
    have hhere := c.toNat_value_nth (i + d)
    rw [← Nat.add_assoc, toNat_value_nth_succ, hbefore, Nat.mod_eq_of_lt]
    · rfl
    · omega

end

/-- **Tickets are dealt in a circle of 2 ^ 31.** Whatever number was dealt last, and however many tickets are dealt from
there on:
- each of them is below 2 ^ 31; the first one follows the number dealt last, and each other one its predecessor, by one
modulo 2 ^ 31;
- two of them are the same just when a multiple of 2 ^ 31 lies between their places, so 2 ^ 31 in a row are all
different;
- the order goes down from one ticket to the next just where the next one is 0, and up all the way between. -/
theorem tickets_told (c : TicketCounter) (n : Nat) :
    let ts := (deals n c).1
    ts.length = n ∧
    (∀ t ∈ ts, t.value.toNat < 2 ^ 31) ∧
    (∀ t : Ticket, ts[0]? = some t → t.value.toNat = (c.last.toNat + 1) % 2 ^ 31) ∧
    (∀ (i : Nat) (t u : Ticket), ts[i]? = some t → ts[i + 1]? = some u →
      u.value.toNat = (t.value.toNat + 1) % 2 ^ 31 ∧ (u.compare t = .lt ↔ u.value = 0)) ∧
    (∀ (i j : Nat) (t u : Ticket), ts[i]? = some t → ts[j]? = some u → (t = u ↔ (2 ^ 31 : Int) ∣ j - i)) ∧
    (∀ k, ((ts.drop k).take (2 ^ 31)).Nodup) ∧
    ∀ (i j : Nat) (t u : Ticket), i < j → ts[i]? = some t → ts[j]? = some u →
      (∀ (k : Nat) (v : Ticket), i < k → k ≤ j → ts[k]? = some v → v.value ≠ 0) → t.compare u = .lt := by
  intro ts
  have hat : ∀ {i : Nat} {t : Ticket}, ts[i]? = some t → i < n ∧ c.nth i = t := fun h => getElem?_deals.1 h
  refine ⟨?_, fun t ht => ?_, fun t ht => ?_, fun i t u ht hu => ?_, fun i j t u ht hu => ?_, fun k => ?_,
    fun i j t u hij ht hu hbetween => ?_⟩
  · rw [show ts = _ from congrArg Prod.fst (c.deals_eq n), List.length_map, List.length_range]
  · obtain ⟨i, hi⟩ := List.mem_iff_getElem?.1 ht
    obtain ⟨-, rfl⟩ := hat hi
    rw [toNat_value_nth]
    exact Nat.mod_lt _ (by decide)
  · obtain ⟨-, rfl⟩ := hat ht
    exact c.toNat_value_nth 0
  · obtain ⟨-, rfl⟩ := hat ht
    obtain ⟨-, rfl⟩ := hat hu
    exact ⟨c.toNat_value_nth_succ, c.compare_nth_succ⟩
  · obtain ⟨-, rfl⟩ := hat ht
    obtain ⟨-, rfl⟩ := hat hu
    exact c.nth_eq_nth_iff
  · refine List.nodup_iff_getElem?_ne_getElem?.2 fun i j hij hj heq => ?_
    rw [List.length_take, List.length_drop] at hj
    rw [List.getElem?_take_of_lt (by omega), List.getElem?_take_of_lt (by omega), List.getElem?_drop,
      List.getElem?_drop] at heq
    have hlast : ts[k + j]? = some (ts.get ⟨k + j, by omega⟩) := List.getElem?_eq_getElem _
    obtain ⟨-, hi⟩ := hat (heq.trans hlast)
    obtain ⟨-, hj⟩ := hat hlast
    have hsame := c.nth_eq_nth_iff.1 (hi.trans hj.symm)
    omega
  · obtain ⟨-, rfl⟩ := hat ht
    obtain ⟨hj, rfl⟩ := hat hu
    obtain ⟨d, rfl⟩ := Nat.exists_eq_add_of_lt hij
    rw [Ticket.compare_eq_lt_iff, Nat.add_assoc, c.toNat_value_nth_of_no_wrap]
    · omega
    · exact fun k hik hk => hbetween k _ hik (by omega) (getElem?_deals.2 ⟨by omega, rfl⟩)

/-- across the wrap of the counter -/
example : (deals 4 ⟨0xfffffffd⟩).1 = [⟨0x7ffffffe⟩, ⟨0x7fffffff⟩, ⟨0⟩, ⟨1⟩] := by decide

end TicketCounter
end BoardDriver

/-
Tickets and completion handles, in the order they are dealt.

- `Ticket.toNat_value_ofRaw`: a ticket is the number dealt, modulo 2 ^ 31;
- `TicketCounter.nth_injOn`: 2 ^ 31 tickets in a row are all different;
- `Numbered`: the requests of a client carry the tickets and the handles that follow those dealt before, in order;
- `numbered_of_posts`: every piece of bookkeeping keeps it so;
- `isComplete_of_posts`: what is complete stays complete.
-/
import Mathlib.Data.List.Pairwise
import BoardDriver.Proofs.Client

namespace BoardDriver

/-! ## Tickets -/

theorem Ticket.toNat_value_ofRaw (raw : UInt32) : (ofRaw raw).value.toNat = raw.toNat % 2 ^ 31 :=
  (UInt32.toNat_and raw 0x7fffffff).trans (Nat.and_two_pow_sub_one_eq_mod raw.toNat 31)

namespace TicketCounter

/-- the ticket dealt after `i` more -/
def nth (c : TicketCounter) (i : Nat) : Ticket :=
  Ticket.ofRaw (c.last + UInt32.ofNat (i + 1))

/-- the counter after `n` tickets have been dealt -/
def after (c : TicketCounter) (n : Nat) : TicketCounter :=
  ⟨c.last + UInt32.ofNat n⟩

@[simp] theorem after_zero (c : TicketCounter) : c.after 0 = c := by
  simp [after]

theorem deal_after (c : TicketCounter) (n : Nat) : (c.after n).deal = (c.nth n, c.after (n + 1)) := by
  have hsucc : c.last + UInt32.ofNat n + 1 = c.last + UInt32.ofNat (n + 1) := by
    rw [UInt32.ofNat_add, UInt32.add_assoc]
    rfl
  simp only [deal, after, nth, hsucc]

theorem toNat_value_nth (c : TicketCounter) (i : Nat) :
    (c.nth i).value.toNat = (c.last.toNat + (i + 1)) % 2 ^ 31 := by
  rw [nth, Ticket.toNat_value_ofRaw, UInt32.toNat_add, UInt32.toNat_ofNat']
  omega

/-- 2 ^ 31 tickets in a row are all different -/
theorem nth_injOn (c : TicketCounter) {i j : Nat} (hi : i < 2 ^ 31) (hj : j < 2 ^ 31) (h : c.nth i = c.nth j) :
    i = j := by
  have hv := congrArg (fun t : Ticket => t.value.toNat) h
  simp only [toNat_value_nth] at hv
  omega

theorem nodup_map_nth (c : TicketCounter) {n : Nat} (hn : n ≤ 2 ^ 31) : ((List.range n).map c.nth).Nodup := by
  refine List.Nodup.map_on (fun i hi j hj h => ?_) List.nodup_range
  rw [List.mem_range] at hi hj
  exact c.nth_injOn (by omega) (by omega) h

end TicketCounter

/-! ## Handles -/

namespace CompletionTable

theorem isComplete_add (t : CompletionTable) (entry : Nat) : t.add.2.isComplete entry = t.isComplete entry := by
  simp only [isComplete, add, List.getElem?_append]
  split
  · rfl
  · rename_i h
    rw [List.getElem?_eq_none (Nat.le_of_not_lt h), List.getElem?_singleton]
    split <;> rfl

/-- a signal completes the entry it is for, if there is one, and no other -/
theorem isComplete_signal_iff (t : CompletionTable) (signalled : Option Nat) (entry : Nat) :
    (t.signal signalled).isComplete entry = true ↔
      t.isComplete entry = true ∨ signalled = some entry ∧ entry < t.entries.length := by
  cases signalled with
  | none => simp [signal]
  | some e =>
    simp only [isComplete, signal, List.getElem?_set, Option.some.injEq]
    by_cases he : e = entry
    · subst he
      by_cases hlt : e < t.entries.length <;> simp [hlt]
    · simp [he]

theorem isComplete_signal (t : CompletionTable) (signalled : Option Nat) (entry : Nat)
    (h : ∀ e, signalled = some e → e < t.entries.length) :
    (t.signal signalled).isComplete entry = true ↔ t.isComplete entry = true ∨ signalled = some entry := by
  rw [isComplete_signal_iff, and_iff_left_of_imp (h entry)]

/-- what is complete stays complete -/
theorem isComplete_signal_of_isComplete {t : CompletionTable} {entry : Nat} (signalled : Option Nat)
    (h : t.isComplete entry = true) : (t.signal signalled).isComplete entry = true :=
  (t.isComplete_signal_iff signalled entry).2 (.inl h)

@[simp] theorem length_entries_signal (t : CompletionTable) (signalled : Option Nat) :
    (t.signal signalled).entries.length = t.entries.length := by
  cases signalled <;> simp [signal]

end CompletionTable

/-! ## Requests in the order they were made -/

namespace TransferLedger

variable (l : TransferLedger) (descriptor : TransferDescriptor) (cookie : Cookie) (watched : Bool)

@[simp] theorem ticket_newRequest : (l.newRequest descriptor cookie watched).1.ticket = l.tickets.deal.1 := by
  cases watched <;> rfl

@[simp] theorem tickets_newRequest : (l.newRequest descriptor cookie watched).2.2.tickets = l.tickets.deal.2 := by
  cases watched <;> rfl

@[simp] theorem completion_newRequest : (l.newRequest descriptor cookie watched).1.completion =
    if watched then some l.completions.entries.length else none := by
  cases watched <;> rfl

@[simp] theorem completions_newRequest : (l.newRequest descriptor cookie watched).2.2.completions =
    if watched then l.completions.add.2 else l.completions := by
  cases watched <;> rfl

/-- a binding deals nothing -/
theorem dealt_enable (channel : Nat) (irq : UInt32) :
    (l.enable channel irq).2.tickets = l.tickets ∧ (l.enable channel irq).2.completions = l.completions := by
  simp only [enable]
  split <;> exact ⟨rfl, rfl⟩

end TransferLedger

/-- the requests made carry the tickets that follow `t₀`, and their handles are the entries from `n₀` on -/
structure Numbered (t₀ : TicketCounter) (n₀ : Nat) (x : TransferLedger × History) : Prop where
  counter : x.1.tickets = t₀.after x.2.created.length
  tickets : x.2.created.map Request.ticket = (List.range x.2.created.length).map t₀.nth
  table : x.1.completions.entries.length = n₀ + (x.2.created.filterMap Request.completion).length
  entries : x.2.created.filterMap Request.completion =
    List.range' n₀ (x.2.created.filterMap Request.completion).length

namespace Numbered

variable {t₀ : TicketCounter} {n₀ : Nat} {x y : TransferLedger × History}

theorem nodup_tickets (n : Numbered t₀ n₀ x) (h : x.2.created.length ≤ 2 ^ 31) :
    (x.2.created.map Request.ticket).Nodup :=
  n.tickets ▸ t₀.nodup_map_nth h

theorem entry_bounds (n : Numbered t₀ n₀ x) {r : Request} (hr : r ∈ x.2.created) {e : Nat}
    (he : r.completion = some e) : n₀ ≤ e ∧ e < x.1.completions.entries.length := by
  have hmem : e ∈ x.2.created.filterMap Request.completion := List.mem_filterMap.2 ⟨r, hr, he⟩
  rw [n.entries, List.mem_range'_1] at hmem
  exact ⟨hmem.1, n.table ▸ hmem.2⟩

/-- a handle belongs to one request -/
theorem eq_of_completion (n : Numbered t₀ n₀ x) {r q : Request} (hr : r ∈ x.2.created) (hq : q ∈ x.2.created) {e : Nat}
    (he : r.completion = some e) (he' : q.completion = some e) : r = q := by
  have hnodup : (x.2.created.filterMap Request.completion).Nodup := n.entries ▸ List.nodup_range'
  rw [List.Nodup, List.pairwise_filterMap] at hnodup
  by_contra hne
  have : Std.Symm fun a b : Request => ∀ e, a.completion = some e → ∀ e', b.completion = some e' → e ≠ e' :=
    ⟨fun a b h e he e' he' => (h e' he' e he).symm⟩
  exact hnodup.forall hr hq hne e he e he' rfl

/-- bookkeeping that makes no request -/
theorem keep (n : Numbered t₀ n₀ x) (ht : y.1.tickets = x.1.tickets)
    (hc : y.1.completions.entries.length = x.1.completions.entries.length) (hm : y.2.created = x.2.created) :
    Numbered t₀ n₀ y where
  counter := by rw [ht, hm, n.counter]
  tickets := by rw [hm, n.tickets]
  table := by rw [hc, hm, n.table]
  entries := by rw [hm, ← n.entries]

end Numbered

theorem numbered_of_posts {t₀ : TicketCounter} {n₀ : Nat} (x y : TransferLedger × History) (p : Posts x y)
    (n : Numbered t₀ n₀ x) : Numbered t₀ n₀ y := by
  cases p with
  | create l h descriptor cookie watched =>
    obtain ⟨hcounter, htickets, htable, hentries⟩ := n
    simp only at hcounter htickets htable hentries
    have hdeal := t₀.deal_after h.created.length
    refine ⟨?_, ?_, ?_, ?_⟩
    · simp [History.make, hcounter, hdeal]
    · simp [History.make, htickets, hcounter, hdeal, List.range_succ]
    · cases watched with
      | false => simpa [History.make] using htable
      | true => simp [History.make, CompletionTable.add, htable, Nat.add_assoc]
    · cases watched with
      | false => simpa [History.make] using hentries
      | true =>
        have hnew : (h.created ++ [(l.newRequest descriptor cookie true).1]).filterMap Request.completion =
            h.created.filterMap Request.completion ++ [l.completions.entries.length] := by simp
        simp only [History.make, hnew, List.length_append, List.length_singleton, List.range'_1_concat]
        rw [← hentries, htable]
  | submit l h _ => exact n.keep rfl rfl rfl
  | retire h hd =>
    obtain ⟨-, ht, hc⟩ := TransferLedger.retire_cases hd
    exact n.keep ht (by rw [hc, CompletionTable.length_entries_signal]) rfl
  | enable l h channel irq =>
    obtain ⟨ht, hc⟩ := l.dealt_enable channel irq
    exact n.keep ht (by rw [hc]) rfl
  | bind l h base => exact n.keep rfl rfl rfl
  | reset l h => exact n.keep rfl rfl rfl

/-- what is complete stays complete -/
theorem isComplete_of_posts {entry : Nat} (x y : TransferLedger × History) (p : Posts x y)
    (hx : x.1.completions.isComplete entry = true) : y.1.completions.isComplete entry = true := by
  cases p with
  | create l h descriptor cookie watched =>
    cases watched with
    | false => exact hx
    | true => exact (l.completions.isComplete_add entry).trans hx
  | submit l h _ => exact hx
  | retire h hd =>
    rw [(TransferLedger.retire_cases hd).2.2]
    exact CompletionTable.isComplete_signal_of_isComplete _ hx
  | enable l h channel irq =>
    rw [(l.dealt_enable channel irq).2]
    exact hx
  | bind l h base => exact hx
  | reset l h => exact hx

end BoardDriver

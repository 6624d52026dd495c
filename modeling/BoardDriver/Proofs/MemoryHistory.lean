/-
The memory of the simulated board through any history of calls.

What is in the window can be told from the calls alone. It belongs to the owner of the last set-up, as long as that
owner has not given it up since; an exchange of the owner succeeds if it fits; and a byte is the one that the last
such exchange down has put there, or zero. Lengths and offsets are compared as integers: the sum that the program forms
of them has 64 bits and might not fit into them, but a window always does.

- `Call`: a set-up, an exchange or a release;
- `Registered`, `byteAfter`: what the calls alone tell of the window; `Registered.of_snoc`, `byteAfter_snoc`: what one
more call adds;
- `exchange_of_none`, `exchange_of_foreign`, `exchange_of_past`, `exchange_up`, `exchange_down`: the outcomes of an
exchange;
- `Told.snoc`, `told_after`: what a call, and a history of them, does to the memory;
- `memory_told`: what is answered and left behind, after any history.
-/
import Mathlib.Data.List.Induction
import BoardDriver.Transfer.OwnedMemory

namespace BoardDriver
namespace OwnedMemory

/-- a call, with the 64-bit numbers that it is made with -/
inductive Call where
  | setup (owner : Cookie) (size : UInt64)
  | exchange (caller : Cookie) (direction : Direction) (offset : UInt64) (buffer : Array UInt8)
  | release (caller : Cookie)
  deriving DecidableEq, Repr

/-! ## What the calls alone tell -/

/-- whether a window outlasts a call: a set-up of some bytes replaces it, and its owner can give it up -/
def Call.Spares (owner : Cookie) : Call → Prop
  | setup _ size => size = 0
  | exchange .. => True
  | release caller => caller ≠ owner

instance (owner : Cookie) (c : Call) : Decidable (c.Spares owner) :=
  match c with
  | .setup _ size => inferInstanceAs (Decidable (size = 0))
  | .exchange .. => inferInstanceAs (Decidable True)
  | .release caller => inferInstanceAs (Decidable (caller ≠ owner))

/-- the window is that of this set-up, and these are the calls since -/
structure Registered (history : List Call) (owner : Cookie) (size : UInt64) (since : List Call) : Prop where
  setup : ∃ before, history = before ++ .setup owner size :: since
  pos : size ≠ 0
  spared : ∀ c ∈ since, c.Spares owner

/-- the byte that a call puts at a position of a window: one that goes down, from the owner, and fits -/
def Call.byteFor? (owner : Cookie) (size : UInt64) (i : Nat) : Call → Option UInt8
  | exchange caller .down offset buffer =>
    if caller = owner ∧ offset.toNat + buffer.size ≤ size.toNat ∧ offset.toNat ≤ i then buffer[i - offset.toNat]?
    else none
  | _ => none

/-- the byte last put at a position; a new window is all zeros -/
def byteAfter (owner : Cookie) (size : UInt64) (since : List Call) (i : Nat) : UInt8 :=
  ((since.filterMap (Call.byteFor? owner size i)).getLast?).getD 0

theorem byteAfter_snoc (owner : Cookie) (size : UInt64) (since : List Call) (c : Call) (i : Nat) :
    byteAfter owner size (since ++ [c]) i = (c.byteFor? owner size i).getD (byteAfter owner size since i) := by
  rw [byteAfter, List.filterMap_append]
  cases hc : c.byteFor? owner size i with
  | none =>
    rw [List.filterMap_cons_none hc, List.filterMap_nil, List.append_nil]
    rfl
  | some b =>
    rw [List.filterMap_cons_some hc, List.filterMap_nil, List.getLast?_concat]
    rfl

namespace Registered

variable {history since since' : List Call} {owner owner' : Cookie} {size size' : UInt64} {c : Call}

/-- a set-up of some bytes -/
theorem fresh (history : List Call) (owner : Cookie) (h : size ≠ 0) :
    Registered (history ++ [.setup owner size]) owner size [] :=
  ⟨⟨history, rfl⟩, h, nofun⟩

/-- a call that spares the window -/
theorem snoc (h : Registered history owner size since) (hc : c.Spares owner) :
    Registered (history ++ [c]) owner size (since ++ [c]) := by
  obtain ⟨before, rfl⟩ := h.setup
  refine ⟨⟨before, by rw [List.append_assoc, List.cons_append]⟩, h.pos, ?_⟩
  intro d hd
  rcases List.mem_append.1 hd with hd | hd
  · exact h.spared d hd
  · rw [List.mem_singleton.1 hd]
    exact hc

/-- the last call has set the window up, or it has spared it -/
theorem of_snoc (h : Registered (history ++ [c]) owner size since) :
    (c = .setup owner size ∧ size ≠ 0 ∧ since = []) ∨
      ∃ earlier, since = earlier ++ [c] ∧ Registered history owner size earlier ∧ c.Spares owner := by
  obtain ⟨before, hbefore⟩ := h.setup
  rcases List.eq_nil_or_concat since with rfl | ⟨earlier, d, rfl⟩
  · obtain ⟨-, hc⟩ := List.append_inj' hbefore rfl
    exact .inl ⟨(List.cons.inj hc).1, h.pos, rfl⟩
  · right
    have hspared := h.spared
    simp only [List.concat_eq_append, ← List.cons_append, ← List.append_assoc] at hbefore hspared
    obtain ⟨rfl, hc⟩ := List.append_inj' hbefore rfl
    cases hc
    obtain ⟨hearlier, hlast⟩ := List.forall_mem_append.1 hspared
    exact ⟨earlier, List.concat_eq_append .., ⟨⟨before, rfl⟩, h.pos, hearlier⟩, hlast c (List.mem_singleton_self c)⟩

theorem not_nil : ¬ Registered [] owner size since := by
  intro h
  obtain ⟨before, hbefore⟩ := h.setup
  cases before <;> cases hbefore

/-- there is one window at most -/
theorem unique (h : Registered history owner size since) (h' : Registered history owner' size' since') :
    owner = owner' ∧ size = size' ∧ since = since' := by
  induction history using List.reverseRecOn generalizing since since' with
  | nil => exact absurd h not_nil
  | append_singleton history c ih =>
    rcases h.of_snoc with ⟨rfl, hpos, rfl⟩ | ⟨earlier, rfl, hearlier, hspares⟩ <;>
      rcases h'.of_snoc with ⟨hc, hpos', rfl⟩ | ⟨earlier', rfl, hearlier', hspares'⟩
    · cases hc
      exact ⟨rfl, rfl, rfl⟩
    · exact absurd hspares' hpos
    · subst hc
      exact absurd hspares hpos'
    · obtain ⟨howner, hsize, rfl⟩ := ih hearlier hearlier'
      exact ⟨howner, hsize, rfl⟩

end Registered

/-! ## One exchange -/

/-- bytes with a buffer laid over them at an offset -/
def overlaid (bytes buffer : Array UInt8) (offset : Nat) : Array UInt8 :=
  bytes.extract 0 offset ++ buffer ++ bytes.extract (offset + buffer.size) bytes.size

section

variable {bytes buffer : Array UInt8} {offset : Nat}

theorem size_overlaid (h : offset + buffer.size ≤ bytes.size) : (overlaid bytes buffer offset).size = bytes.size := by
  simp only [overlaid, Array.size_append, Array.size_extract]
  omega

/-- the bytes of the buffer lie where they were put, and the others are as before -/
theorem getElem?_overlaid (h : offset + buffer.size ≤ bytes.size) (i : Nat) :
    (overlaid bytes buffer offset)[i]? =
      if offset ≤ i ∧ i < offset + buffer.size then buffer[i - offset]? else bytes[i]? := by
  have hbefore : (bytes.extract 0 offset).size = offset := by
    rw [Array.size_extract]
    omega
  rw [overlaid, Array.append_assoc, Array.getElem?_append, hbefore]
  rcases Nat.lt_or_ge i offset with hi | hi
  · rw [if_pos hi, if_neg (by omega), Array.getElem?_extract, if_pos (by omega), Nat.zero_add]
  · rw [if_neg (Nat.not_lt.2 hi), Array.getElem?_append]
    rcases Nat.lt_or_ge i (offset + buffer.size) with hin | hin
    · rw [if_pos (by omega), if_pos ⟨hi, hin⟩]
    · have hplace : offset + buffer.size + (i - offset - buffer.size) = i := by omega
      rw [if_neg (by omega), if_neg (by omega), Array.getElem?_extract, hplace, Nat.min_self]
      split
      · rfl
      · rw [Array.getElem?_eq_none (by omega)]

end

section

variable {m : OwnedMemory} {w : OwnedWindow} {caller : Cookie} {direction : Direction} {offset : Nat}
  {buffer : Array UInt8}

theorem exchange_of_none (h : m.window = none) :
    m.exchange caller direction offset buffer = (.error (.invalidArgument .noMemory), buffer, m) := by
  simp only [exchange, h]

/-- a caller who does not own the window is told so, whatever it asks for -/
theorem exchange_of_foreign (h : m.window = some w) (hforeign : w.owner ≠ caller) :
    m.exchange caller direction offset buffer = (.error (.notOwner "simulator memory"), buffer, m) := by
  simp only [exchange, h, ne_eq, hforeign, not_false_eq_true, if_true]

/-- the owner goes past the end -/
theorem exchange_of_past (h : m.window = some w) (howner : w.owner = caller)
    (hpast : w.bytes.size < offset + buffer.size) :
    m.exchange caller direction offset buffer =
      (.error (.outOfRange (min (offset + buffer.size) (UInt64.size - 1)) w.bytes.size), buffer, m) := by
  have hnone := (spanEnd?_eq_none_iff w.bytes.size offset buffer.size).2 (.inl hpast)
  simp only [exchange, h, ne_eq, howner, not_true_eq_false, if_false, hnone]

/-- the end of what fits is a 64-bit number -/
theorem spanEnd?_of_fits {size length : Nat} (hfits : offset + length ≤ size) (hsize : size < UInt64.size) :
    spanEnd? size offset length = some (offset + length) :=
  (spanEnd?_eq_some_iff size offset length _).2 ⟨rfl, hfits, Nat.lt_of_le_of_lt hfits hsize⟩

theorem exchange_up (h : m.window = some w) (howner : w.owner = caller) (hsize : w.bytes.size < UInt64.size)
    (hfits : offset + buffer.size ≤ w.bytes.size) :
    m.exchange caller .up offset buffer = (.ok (), w.bytes.extract offset (offset + buffer.size), m) := by
  simp only [exchange, h, ne_eq, howner, not_true_eq_false, if_false, spanEnd?_of_fits hfits hsize]

theorem exchange_down (h : m.window = some w) (howner : w.owner = caller) (hsize : w.bytes.size < UInt64.size)
    (hfits : offset + buffer.size ≤ w.bytes.size) :
    m.exchange caller .down offset buffer =
      (.ok (), buffer, { window := some { w with bytes := overlaid w.bytes buffer offset } }) := by
  simp only [exchange, h, ne_eq, howner, not_true_eq_false, if_false, spanEnd?_of_fits hfits hsize]
  rfl

end

/-! ## Any history -/

def Call.on (m : OwnedMemory) : Call → OwnedMemory
  | setup owner size => (m.setup owner size.toNat).2
  | exchange caller direction offset buffer => (m.exchange caller direction offset.toNat buffer).2.2
  | release caller => (m.release caller).2

/-- the memory after a history of calls; there is no window at first -/
def after (history : List Call) : OwnedMemory := history.foldl Call.on {}

theorem after_snoc (history : List Call) (c : Call) : after (history ++ [c]) = c.on (after history) := by
  rw [after, List.foldl_append]
  rfl

/-- a window with what the calls since its set-up have put there -/
structure Holds (owner : Cookie) (size : UInt64) (since : List Call) (w : OwnedWindow) : Prop where
  owner_eq : w.owner = owner
  size_eq : w.bytes.size = size.toNat
  bytes : ∀ i < size.toNat, w.bytes[i]? = some (byteAfter owner size since i)

/-- a memory as the calls alone tell it -/
inductive Told (history : List Call) (m : OwnedMemory) : Prop
  | empty : (∀ owner size since, ¬ Registered history owner size since) → m.window = none → Told history m
  | registered {owner : Cookie} {size : UInt64} {since : List Call} {w : OwnedWindow} :
      Registered history owner size since → m.window = some w → Holds owner size since w → Told history m

section

variable {history : List Call} {m : OwnedMemory} {c : Call} {owner : Cookie} {size : UInt64} {since : List Call}
  {w : OwnedWindow}

theorem Holds.lt_size (h : Holds owner size since w) : w.bytes.size < UInt64.size := by
  rw [h.size_eq]
  exact size.toNat_lt_size

/-- a call that puts nothing into the window -/
theorem Holds.snoc (h : Holds owner size since w) (hc : ∀ i, c.byteFor? owner size i = none) :
    Holds owner size (since ++ [c]) w := by
  refine ⟨h.owner_eq, h.size_eq, fun i hi => ?_⟩
  rw [byteAfter_snoc, hc i]
  exact h.bytes i hi

/-- only a set-up of some bytes makes a window -/
theorem not_registered_snoc (hnone : ∀ owner size since, ¬ Registered history owner size since)
    (hsetup : ∀ owner size, c = .setup owner size → size = 0) (owner : Cookie) (size : UInt64) (since : List Call) :
    ¬ Registered (history ++ [c]) owner size since := by
  intro hreg
  rcases hreg.of_snoc with ⟨rfl, hpos, -⟩ | ⟨earlier, -, hearlier, -⟩
  · exact hpos (hsetup owner size rfl)
  · exact hnone owner size earlier hearlier

theorem Told.setup (h : Told history m) (owner : Cookie) (size : UInt64) :
    Told (history ++ [.setup owner size]) (m.setup owner size.toNat).2 := by
  by_cases hzero : size = 0
  · subst hzero
    rw [show (m.setup owner (0 : UInt64).toNat).2 = m from rfl]
    cases h with
    | empty hnone hw =>
      refine .empty (not_registered_snoc hnone ?_) hw
      rintro _ _ ⟨⟩
      rfl
    | registered hreg hw hholds => exact .registered (hreg.snoc rfl) hw (hholds.snoc fun _ => rfl)
  · have hpos : size.toNat ≠ 0 := fun h => hzero (UInt64.toNat_inj.1 h)
    rw [OwnedMemory.setup, if_neg hpos]
    refine .registered (.fresh history owner hzero) rfl ⟨rfl, Array.size_replicate, fun i hi => ?_⟩
    rw [Array.getElem?_replicate, if_pos hi]
    rfl

/-- an exchange that is not the owner's, or does not fit, puts nothing into the window -/
theorem byteFor?_of_not {caller : Cookie} {offset : UInt64} {buffer : Array UInt8}
    (h : ¬ (caller = owner ∧ offset.toNat + buffer.size ≤ size.toNat)) (direction : Direction) (i : Nat) :
    Call.byteFor? owner size i (.exchange caller direction offset buffer) = none := by
  cases direction with
  | up => rfl
  | down => exact if_neg fun hyes => h ⟨hyes.1, hyes.2.1⟩

/-- one of the owner that fits and goes down lays its buffer over the window -/
theorem Holds.down (h : Holds owner size since w) {offset : UInt64} {buffer : Array UInt8}
    (hfits : offset.toNat + buffer.size ≤ size.toNat) :
    Holds owner size (since ++ [.exchange owner .down offset buffer])
      { w with bytes := overlaid w.bytes buffer offset.toNat } := by
  have hroom : offset.toNat + buffer.size ≤ w.bytes.size := h.size_eq ▸ hfits
  refine ⟨h.owner_eq, (size_overlaid hroom).trans h.size_eq, fun i hi => ?_⟩
  rw [getElem?_overlaid hroom, byteAfter_snoc]
  by_cases hin : offset.toNat ≤ i ∧ i < offset.toNat + buffer.size
  · have hput : i - offset.toNat < buffer.size := by omega
    have hbyte : Call.byteFor? owner size i (.exchange owner .down offset buffer) = some buffer[i - offset.toNat] :=
      (if_pos ⟨rfl, hfits, hin.1⟩).trans (Array.getElem?_eq_getElem hput)
    rw [if_pos hin, Array.getElem?_eq_getElem hput, hbyte, Option.getD_some]
  · have hbyte : Call.byteFor? owner size i (.exchange owner .down offset buffer) = none := by
      rw [Call.byteFor?]
      split
      · exact Array.getElem?_eq_none (by omega)
      · rfl
    rw [if_neg hin, hbyte, Option.getD_none]
    exact h.bytes i hi

theorem Told.exchange (h : Told history m) (caller : Cookie) (direction : Direction) (offset : UInt64)
    (buffer : Array UInt8) :
    Told (history ++ [.exchange caller direction offset buffer])
      (m.exchange caller direction offset.toNat buffer).2.2 := by
  cases h with
  | empty hnone hw =>
    rw [exchange_of_none hw]
    exact .empty (not_registered_snoc hnone nofun) hw
  | @registered owner size since w hreg hw hholds =>
    have hkept : Registered (history ++ [.exchange caller direction offset buffer]) owner size _ := hreg.snoc trivial
    by_cases hcaller : w.owner = caller
    · obtain rfl : owner = caller := hholds.owner_eq.symm.trans hcaller
      rcases Nat.lt_or_ge size.toNat (offset.toNat + buffer.size) with hpast | hfits
      · rw [exchange_of_past hw hcaller (hholds.size_eq ▸ hpast)]
        exact .registered hkept hw (hholds.snoc (byteFor?_of_not (fun h => Nat.not_le.2 hpast h.2) direction))
      · have hroom : offset.toNat + buffer.size ≤ w.bytes.size := hholds.size_eq ▸ hfits
        cases direction with
        | up =>
          rw [exchange_up hw hcaller hholds.lt_size hroom]
          exact .registered hkept hw (hholds.snoc fun _ => rfl)
        | down =>
          rw [exchange_down hw hcaller hholds.lt_size hroom]
          exact .registered hkept rfl (hholds.down hfits)
    · rw [exchange_of_foreign hw hcaller]
      refine .registered hkept hw (hholds.snoc (byteFor?_of_not (fun h => hcaller ?_) direction))
      rw [hholds.owner_eq, h.1]

theorem release_of_owner {caller : Cookie} (hw : m.window = some w) (howner : w.owner = caller) :
    m.release caller = (true, {}) := by
  simp only [release, hw, Option.any_some, howner, beq_self_eq_true, if_true]

theorem release_of_foreign {caller : Cookie} (hforeign : ∀ w, m.window = some w → w.owner ≠ caller) :
    m.release caller = (false, m) := by
  refine if_neg fun h => ?_
  obtain ⟨w, hw, howner⟩ := (Option.any_eq_true _ _).1 h
  exact hforeign w hw (beq_iff_eq.1 howner)

theorem Told.release (h : Told history m) (caller : Cookie) :
    Told (history ++ [.release caller]) (m.release caller).2 := by
  cases h with
  | empty hnone hw =>
    rw [release_of_foreign fun w hsome => by rw [hw] at hsome; cases hsome]
    exact .empty (not_registered_snoc hnone nofun) hw
  | @registered owner size since w hreg hw hholds =>
    by_cases hcaller : w.owner = caller
    · rw [release_of_owner hw hcaller]
      refine .empty (fun owner' size' since' hreg' => ?_) rfl
      rcases hreg'.of_snoc with ⟨hc, -, -⟩ | ⟨earlier, -, hearlier, hspares⟩
      · cases hc
      · -- whoever owns a window after the release owned it before
        obtain ⟨rfl, -, -⟩ := hreg.unique hearlier
        exact hspares (hcaller.symm.trans hholds.owner_eq)
    · have hforeign : ∀ v, m.window = some v → v.owner ≠ caller := by
        intro v hv
        rw [← Option.some.inj (hw.symm.trans hv)]
        exact hcaller
      rw [release_of_foreign hforeign]
      refine .registered (hreg.snoc fun h => hcaller (hholds.owner_eq.trans h.symm)) hw (hholds.snoc fun _ => rfl)

/-- what one more call does to the memory is what it adds to the history -/
theorem Told.snoc (h : Told history m) (c : Call) : Told (history ++ [c]) (c.on m) := by
  cases c with
  | setup owner size => exact h.setup owner size
  | exchange caller direction offset buffer => exact h.exchange caller direction offset buffer
  | release caller => exact h.release caller

theorem told_after (history : List Call) : Told history (after history) := by
  induction history using List.reverseRecOn with
  | nil => exact .empty (fun _ _ _ => Registered.not_nil) rfl
  | append_singleton history c ih =>
    rw [after_snoc]
    exact ih.snoc c

/-- the window of whoever the calls alone name -/
theorem Registered.exists_window (h : Registered history owner size since) :
    ∃ w, (after history).window = some w ∧ Holds owner size since w := by
  cases told_after history with
  | empty hnone _ => exact absurd h (hnone owner size since)
  | registered hreg hw hholds =>
    obtain ⟨rfl, rfl, rfl⟩ := h.unique hreg
    exact ⟨_, hw, hholds⟩

theorem window_of_not_registered (h : ∀ owner size since, ¬ Registered history owner size since) :
    (after history).window = none := by
  cases told_after history with
  | empty _ hw => exact hw
  | registered hreg _ _ => exact absurd hreg (h _ _ _)

end

/-- what an exchange of the owner comes to when it fits: a copy of what was last put there, or the window with the
buffer laid over it -/
structure Exchanges (m : OwnedMemory) (owner : Cookie) (size : UInt64) (since : List Call) (offset : UInt64)
    (buffer : Array UInt8) : Prop where
  up : ∃ copy, m.exchange owner .up offset.toNat buffer = (.ok (), copy, m) ∧ copy.size = buffer.size ∧
    ∀ i < buffer.size, copy[i]? = some (byteAfter owner size since (offset.toNat + i))
  down : ∃ w bytes, m.window = some w ∧
    m.exchange owner .down offset.toNat buffer = (.ok (), buffer, { window := some { w with bytes := bytes } }) ∧
    bytes.size = w.bytes.size ∧
    ∀ i, bytes[i]? =
      if offset.toNat ≤ i ∧ i < offset.toNat + buffer.size then buffer[i - offset.toNat]? else w.bytes[i]?

section

variable {history since : List Call} {owner caller : Cookie} {size offset : UInt64} {buffer : Array UInt8}
  {direction : Direction}

theorem Registered.exchanges (h : Registered history owner size since)
    (hfits : offset.toNat + buffer.size ≤ size.toNat) :
    Exchanges (after history) owner size since offset buffer := by
  obtain ⟨w, hw, hholds⟩ := h.exists_window
  have hroom : offset.toNat + buffer.size ≤ w.bytes.size := hholds.size_eq ▸ hfits
  refine ⟨⟨_, exchange_up hw hholds.owner_eq hholds.lt_size hroom, ?_, fun i hi => ?_⟩,
    ⟨w, _, hw, exchange_down hw hholds.owner_eq hholds.lt_size hroom, size_overlaid hroom, getElem?_overlaid hroom⟩⟩
  · rw [Array.size_extract]
    omega
  · rw [Array.getElem?_extract, if_pos (by omega)]
    exact hholds.bytes _ (by omega)

theorem Registered.exchange_foreign (h : Registered history owner size since) (hforeign : owner ≠ caller) :
    (after history).exchange caller direction offset.toNat buffer =
      (.error (.notOwner "simulator memory"), buffer, after history) := by
  obtain ⟨w, hw, hholds⟩ := h.exists_window
  exact exchange_of_foreign hw (hholds.owner_eq.symm ▸ hforeign)

theorem Registered.exchange_past (h : Registered history owner size since)
    (hpast : size.toNat < offset.toNat + buffer.size) :
    (after history).exchange owner direction offset.toNat buffer =
      (.error (.outOfRange (min (offset.toNat + buffer.size) (UInt64.size - 1)) size.toNat), buffer,
        after history) := by
  obtain ⟨w, hw, hholds⟩ := h.exists_window
  rw [← hholds.size_eq] at hpast ⊢
  exact exchange_of_past hw hholds.owner_eq hpast

/-- an exchange is the owner's and fits, or it fails and leaves all as it was -/
theorem exchange_cases (history : List Call) (caller : Cookie) (direction : Direction) (offset : UInt64)
    (buffer : Array UInt8) :
    ((∃ size since, Registered history caller size since ∧ offset.toNat + buffer.size ≤ size.toNat) ∧
        ((after history).exchange caller direction offset.toNat buffer).1 = .ok ()) ∨
      (¬ ∃ size since, Registered history caller size since ∧ offset.toNat + buffer.size ≤ size.toNat) ∧
        ∃ e, (after history).exchange caller direction offset.toNat buffer = (.error e, buffer, after history) := by
  by_cases hreg : ∃ owner size since, Registered history owner size since
  · obtain ⟨owner, size, since, hreg⟩ := hreg
    by_cases howner : owner = caller
    · subst howner
      rcases Nat.lt_or_ge size.toNat (offset.toNat + buffer.size) with hpast | hfits
      · refine .inr ⟨?_, _, hreg.exchange_past hpast⟩
        rintro ⟨size', since', hreg', hfits⟩
        obtain ⟨-, rfl, -⟩ := hreg.unique hreg'
        exact Nat.not_le.2 hpast hfits
      · obtain ⟨⟨copy, hup, -⟩, ⟨w, bytes, -, hdown, -⟩⟩ := hreg.exchanges hfits
        refine .inl ⟨⟨size, since, hreg, hfits⟩, ?_⟩
        cases direction with
        | up => rw [hup]
        | down => rw [hdown]
    · refine .inr ⟨?_, _, hreg.exchange_foreign howner⟩
      rintro ⟨size', since', hreg', -⟩
      exact howner (hreg.unique hreg').1
  · refine .inr ⟨fun ⟨size, since, h, _⟩ => hreg ⟨caller, size, since, h⟩, _, exchange_of_none ?_⟩
    exact window_of_not_registered fun owner size since h => hreg ⟨owner, size, since, h⟩

/-- since the set-up, an exchange has succeeded just when it was the owner's and fitted -/
theorem Registered.succeeded_iff {earlier later : List Call}
    (h : Registered history owner size (earlier ++ .exchange caller direction offset buffer :: later)) :
    ∃ before, history = before ++ .exchange caller direction offset buffer :: later ∧
      (((after before).exchange caller direction offset.toNat buffer).1 = .ok () ↔
        caller = owner ∧ offset.toNat + buffer.size ≤ size.toNat) := by
  obtain ⟨before, rfl⟩ := h.setup
  have hreg : Registered (before ++ .setup owner size :: earlier) owner size earlier :=
    ⟨⟨before, rfl⟩, h.pos, fun c hc => h.spared c (List.mem_append_left _ hc)⟩
  refine ⟨before ++ .setup owner size :: earlier, by rw [List.append_assoc, List.cons_append], ?_⟩
  rcases exchange_cases (before ++ .setup owner size :: earlier) caller direction offset buffer with
    ⟨⟨size', since', hreg', hfits⟩, hok⟩ | ⟨hnot, e, he⟩
  · obtain ⟨rfl, rfl, -⟩ := hreg.unique hreg'
    exact iff_of_true hok ⟨rfl, hfits⟩
  · refine iff_of_false (fun hok => ?_) ?_
    · rw [he] at hok
      cases hok
    · rintro ⟨rfl, hfits⟩
      exact hnot ⟨size, earlier, hreg, hfits⟩

theorem release_cases (history : List Call) (caller : Cookie) :
    ((∃ size since, Registered history caller size since) → (after history).release caller = (true, {})) ∧
      ((¬ ∃ size since, Registered history caller size since) →
        (after history).release caller = (false, after history)) := by
  constructor
  · rintro ⟨size, since, hreg⟩
    obtain ⟨w, hw, hholds⟩ := hreg.exists_window
    exact release_of_owner hw hholds.owner_eq
  · intro hnot
    refine release_of_foreign fun w hw howner => ?_
    cases told_after history with
    | empty _ hnone => cases hnone.symm.trans hw
    | registered hreg hsome hholds =>
      cases hsome.symm.trans hw
      obtain rfl := howner.symm.trans hholds.owner_eq
      exact hnot ⟨_, _, hreg⟩

/-- a caller is answered alike by all windows that it does not own -/
theorem answers_of_foreign {m m' : OwnedMemory} {w w' : OwnedWindow} (hw : m.window = some w)
    (hw' : m'.window = some w') (hforeign : w.owner ≠ caller) (hforeign' : w'.owner ≠ caller) :
    (m.release caller).1 = (m'.release caller).1 ∧
      ∀ direction offset buffer,
        (m.exchange caller direction offset buffer).1 = (m'.exchange caller direction offset buffer).1 ∧
        (m.exchange caller direction offset buffer).2.1 = (m'.exchange caller direction offset buffer).2.1 := by
  constructor
  · rw [release_of_foreign fun v hv => Option.some.inj (hw.symm.trans hv) ▸ hforeign,
      release_of_foreign fun v hv => Option.some.inj (hw'.symm.trans hv) ▸ hforeign']
  · intro direction offset buffer
    rw [exchange_of_foreign hw hforeign, exchange_of_foreign hw' hforeign']
    exact ⟨rfl, rfl⟩

end

/-- **The memory of the simulated board is an array of bytes that one session owns.** After any history of calls, with
buffers of any length and 64-bit sizes and offsets:
- an exchange succeeds just when its caller owns the window and the exchange fits into it, as integers;
- then one that goes up copies at each position the byte last put there since the window was set up, and leaves the
memory as it is; one that goes down leaves the buffer, and changes exactly the bytes that it covers;
- the exchanges since the set-up that are counted for these bytes are those that have succeeded;
- one that fails leaves the memory and the buffer as they are: there is no window, or the caller does not own it,
whether the exchange would fit or not, or it goes past the end;
- a set-up of no bytes is refused and leaves the memory as it is, and one of some bytes is not refused;
- a release takes the window away if its caller owns it, and otherwise leaves the memory as it is;
- whatever two windows hold, a caller who owns neither is answered alike by both. -/
theorem memory_told (history : List Call) :
    let m := after history
    (∀ caller direction (offset : UInt64) (buffer : Array UInt8),
      (m.exchange caller direction offset.toNat buffer).1 = .ok () ↔
        ∃ size since, Registered history caller size since ∧ offset.toNat + buffer.size ≤ size.toNat) ∧
    (∀ owner size since, Registered history owner size since → ∀ (offset : UInt64) (buffer : Array UInt8),
      offset.toNat + buffer.size ≤ size.toNat → Exchanges m owner size since offset buffer) ∧
    (∀ owner size earlier caller direction (offset : UInt64) (buffer : Array UInt8) later,
      Registered history owner size (earlier ++ .exchange caller direction offset buffer :: later) →
        ∃ before, history = before ++ .exchange caller direction offset buffer :: later ∧
          (((after before).exchange caller direction offset.toNat buffer).1 = .ok () ↔
            caller = owner ∧ offset.toNat + buffer.size ≤ size.toNat)) ∧
    (∀ caller direction (offset : UInt64) (buffer : Array UInt8),
      (∀ e, (m.exchange caller direction offset.toNat buffer).1 = .error e →
        (m.exchange caller direction offset.toNat buffer).2 = (buffer, m)) ∧
      ((∀ owner size since, ¬ Registered history owner size since) →
        (m.exchange caller direction offset.toNat buffer).1 = .error (.invalidArgument .noMemory)) ∧
      ∀ owner size since, Registered history owner size since →
        (owner ≠ caller →
          (m.exchange caller direction offset.toNat buffer).1 = .error (.notOwner "simulator memory")) ∧
        (owner = caller → size.toNat < offset.toNat + buffer.size →
          (m.exchange caller direction offset.toNat buffer).1 =
            .error (.outOfRange (min (offset.toNat + buffer.size) (UInt64.size - 1)) size.toNat))) ∧
    (∀ owner, m.setup owner 0 = (.error (.invalidArgument .emptyMemory), m) ∧
      ∀ size : UInt64, size ≠ 0 → (m.setup owner size.toNat).1 = .ok ()) ∧
    (∀ caller,
      ((∃ size since, Registered history caller size since) → m.release caller = (true, { window := none })) ∧
      ((¬ ∃ size since, Registered history caller size since) → m.release caller = (false, m))) ∧
    ∀ (m m' : OwnedMemory) (w w' : OwnedWindow) (caller : Cookie), m.window = some w → m'.window = some w' →
      w.owner ≠ caller → w'.owner ≠ caller →
      (m.release caller).1 = (m'.release caller).1 ∧
      ∀ direction offset buffer,
        (m.exchange caller direction offset buffer).1 = (m'.exchange caller direction offset buffer).1 ∧
        (m.exchange caller direction offset buffer).2.1 = (m'.exchange caller direction offset buffer).2.1 := by
  intro m
  refine ⟨?_, fun owner size since hreg offset buffer hfits => hreg.exchanges hfits, ?_, ?_, ?_,
    release_cases history, fun m m' w w' caller => answers_of_foreign⟩
  · intro caller direction offset buffer
    rcases exchange_cases history caller direction offset buffer with ⟨hfits, hok⟩ | ⟨hnot, e, he⟩
    · exact iff_of_true hok hfits
    · refine iff_of_false (fun hok => ?_) hnot
      rw [show m.exchange _ _ _ _ = _ from he] at hok
      cases hok
  · exact fun owner size earlier caller direction offset buffer later hreg => hreg.succeeded_iff
  · intro caller direction offset buffer
    refine ⟨fun e he => ?_, fun hnone => ?_, fun owner size since hreg => ⟨fun hforeign => ?_, ?_⟩⟩
    · rcases exchange_cases history caller direction offset buffer with ⟨-, hok⟩ | ⟨-, e', he'⟩
      · cases hok.symm.trans he
      · rw [show m.exchange _ _ _ _ = _ from he']
    · rw [exchange_of_none (window_of_not_registered hnone)]
    · rw [hreg.exchange_foreign hforeign]
    · rintro rfl hpast
      rw [hreg.exchange_past hpast]
  · intro owner
    refine ⟨rfl, fun size hpos => ?_⟩
    have hnat : size.toNat ≠ 0 := fun h => hpos (UInt64.toNat_inj.1 h)
    rw [setup, if_neg hnat]

/-- the calls since a second session has set up a window of its own -/
def sinceSecond : List Call :=
  [.exchange ⟨2⟩ .down 2 #[1, 2, 3], .exchange ⟨1⟩ .down 0 #[5], .exchange ⟨2⟩ .down 3 #[7],
   .exchange ⟨2⟩ .down 7 #[8, 8], .release ⟨1⟩]

/-- a first session fills its window, and a second one takes its place -/
def passedOn : List Call :=
  [.setup ⟨1⟩ 16, .exchange ⟨1⟩ .down 0 #[9, 9, 9, 9]] ++ .setup ⟨2⟩ 8 :: sinceSecond

/-- overlapping exchanges, one of no bytes at the end, and two whose end has no 64-bit number -/
theorem memory_told_passedOn :
    let m := after passedOn
    Registered passedOn ⟨2⟩ 8 sinceSecond ∧
    (∃ copy, m.exchange ⟨2⟩ .up (2 : UInt64).toNat #[0, 0, 0] = (.ok (), copy, m) ∧ copy[1]? = some 7 ∧
      copy[2]? = some 3) ∧
    (m.exchange ⟨2⟩ .down (8 : UInt64).toNat #[]).1 = .ok () ∧
    (m.exchange ⟨2⟩ .up (0xffffffffffffffff : UInt64).toNat #[0]).1 = .error (.outOfRange 0xffffffffffffffff 8) ∧
    (m.exchange ⟨1⟩ .up (0xffffffffffffffff : UInt64).toNat #[0]).1 = .error (.notOwner "simulator memory") := by
  intro m
  have hreg : Registered passedOn ⟨2⟩ 8 sinceSecond := ⟨⟨_, rfl⟩, by decide, by decide⟩
  obtain ⟨hiff, hfits, -, hfails, -⟩ := memory_told passedOn
  obtain ⟨⟨copy, hcopy, -, hbytes⟩, -⟩ := hfits _ _ _ hreg 2 #[0, 0, 0] (by decide)
  refine ⟨hreg, ⟨copy, hcopy, hbytes 1 (by decide), hbytes 2 (by decide)⟩, ?_, ?_, ?_⟩
  · exact (hiff ⟨2⟩ .down 8 #[]).2 ⟨8, _, hreg, by decide⟩
  · exact ((hfails ⟨2⟩ .up 0xffffffffffffffff #[0]).2.2 _ _ _ hreg).2 rfl (by decide)
  · exact ((hfails ⟨1⟩ .up 0xffffffffffffffff #[0]).2.2 _ _ _ hreg).1 (by decide)

end OwnedMemory
end BoardDriver

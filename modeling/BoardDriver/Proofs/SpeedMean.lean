/-
The speeds that the statistics show, through any history of calls.

The samples of a direction can be told from the calls alone: the speeds of those of its transfers that were recorded
while tracking was on, and that took measurable time. The last speed is the newest sample. The mean is seven eighths of
the mean before and one eighth of the newest sample, rounded down, and would stay between the samples for that; but the
sum of the eighths is held to 64 bits. So a mean of two samples or more is never above 2 ^ 61 - 1, and where all of them
are above, it has left them.

- `DirectionCounters.mixed_of_ne_zero`: what mixing a sample into the mean comes to;
- `exists_ge_meanOf`, `exists_le_meanOf`, `meanOf_of_high`: where the mean of some samples lies;
- `within_meanOf_iff`: just when it is between the samples;
- `Statistics.Call`, `tracked`, `samples`: what the calls alone tell;
- `Call.speeds_on`, `speeds_run`: what a call, and a run of them, does to the two speeds;
- `speeds_told`: what they are after any history.
-/
import Mathlib.Algebra.Group.Nat.Defs
import Mathlib.Data.List.Induction
import BoardDriver.Statistics

namespace BoardDriver

/-! ## The mean of some samples -/

namespace DirectionCounters

/-- the greatest mean that comes of mixing -/
def meanLimit : Nat := speedLimit / 8

theorem meanLimit_eq : meanLimit = 2 ^ 61 - 1 := rfl

theorem mixed_of_ne_zero {mean : Nat} (h : mean ≠ 0) (speed : Nat) :
    mixed mean speed = min ((mean * 7 + speed) / 8) meanLimit := by
  rw [mixed, if_neg h, meanLimit]
  omega

/-- the mean after some samples, the oldest first -/
def meanOf (samples : List Nat) : Nat := samples.foldl mixed 0

theorem meanOf_snoc (samples : List Nat) (speed : Nat) :
    meanOf (samples ++ [speed]) = mixed (meanOf samples) speed :=
  List.foldl_append

/-- no less than some sample, and no more than some sample -/
def Within (samples : List Nat) (speed : Nat) : Prop :=
  (∃ low ∈ samples, low ≤ speed) ∧ ∃ high ∈ samples, speed ≤ high

section

variable {samples : List Nat}

/-- the sum that is rounded down is no more than eight times the greater of the two -/
theorem mixed_le_max (mean speed : Nat) : mixed mean speed ≤ max mean speed := by
  by_cases h : mean = 0
  · rw [mixed, if_pos h]
    exact Nat.le_max_right ..
  · rw [mixed_of_ne_zero h]
    omega

theorem exists_ge_meanOf (h : samples ≠ []) : ∃ high ∈ samples, meanOf samples ≤ high := by
  induction samples using List.reverseRecOn with
  | nil => exact absurd rfl h
  | append_singleton samples speed ih =>
    rw [meanOf_snoc]
    have hmixed := mixed_le_max (meanOf samples) speed
    by_cases hnil : samples = []
    · subst hnil
      exact ⟨speed, by simp, Nat.le_of_eq rfl⟩
    · obtain ⟨high, hmem, hhigh⟩ := ih hnil
      rcases Nat.le_total (meanOf samples) speed with hle | hle
      · exact ⟨speed, by simp, by omega⟩
      · exact ⟨high, List.mem_append_left _ hmem, by omega⟩

/-- a mean below all samples is at the limit: a sample can lower it no further than to itself -/
theorem exists_le_meanOf (h : samples ≠ []) :
    (∃ low ∈ samples, low ≤ meanOf samples) ∨ meanOf samples = meanLimit := by
  induction samples using List.reverseRecOn with
  | nil => exact absurd rfl h
  | append_singleton samples speed ih =>
    have hnew : speed ∈ samples ++ [speed] := by simp
    rw [meanOf_snoc]
    by_cases hzero : meanOf samples = 0
    · rw [hzero]
      exact .inl ⟨speed, hnew, Nat.le_of_eq rfl⟩
    · rw [mixed_of_ne_zero hzero]
      have hnil : samples ≠ [] := by
        rintro rfl
        exact hzero rfl
      rcases Nat.le_total speed (meanOf samples) with hle | hle
      · by_cases hlimit : speed ≤ meanLimit
        · exact .inl ⟨speed, hnew, by omega⟩
        · right
          omega
      · rcases ih hnil with ⟨low, hmem, hlow⟩ | hlimit
        · by_cases hhigh : meanOf samples ≤ meanLimit
          · exact .inl ⟨low, List.mem_append_left _ hmem, by omega⟩
          · right
            omega
        · right
          omega

/-- samples that are all above the limit are mixed to the limit, the second with the first and so on -/
theorem meanOf_of_high (hmany : 2 ≤ samples.length) (hhigh : ∀ x ∈ samples, meanLimit < x) :
    meanOf samples = meanLimit := by
  rcases List.eq_nil_or_concat samples with rfl | ⟨earlier, speed, rfl⟩
  · simp at hmany
  · rw [List.concat_eq_append] at hmany hhigh ⊢
    have hnil : earlier ≠ [] := by
      rintro rfl
      simp at hmany
    have hspeed : meanLimit < speed := hhigh speed (by simp)
    have hmean : meanLimit ≤ meanOf earlier := by
      rcases exists_le_meanOf hnil with ⟨low, hmem, hlow⟩ | hlimit
      · exact Nat.le_trans (Nat.le_of_lt (hhigh low (List.mem_append_left _ hmem))) hlow
      · exact Nat.le_of_eq hlimit.symm
    have hpos : 0 < meanLimit := by decide
    rw [meanOf_snoc, mixed_of_ne_zero (by omega)]
    omega

theorem within_meanOf_iff (h : samples ≠ []) :
    Within samples (meanOf samples) ↔ samples.length = 1 ∨ ∃ x ∈ samples, x ≤ meanLimit := by
  constructor
  · rintro ⟨⟨low, hmem, hlow⟩, -⟩
    by_contra hnot
    obtain ⟨hone, hhigh⟩ := not_or.1 hnot
    have hpos : 0 < samples.length := List.length_pos_iff.2 h
    have hall : ∀ x ∈ samples, meanLimit < x := fun x hx => Nat.lt_of_not_le fun hle => hhigh ⟨x, hx, hle⟩
    have hlimit := meanOf_of_high (by omega) hall
    have habove := hall low hmem
    omega
  · intro hcase
    refine ⟨?_, exists_ge_meanOf h⟩
    rcases hcase with hone | ⟨x, hx, hle⟩
    · obtain ⟨speed, rfl⟩ := List.length_eq_one_iff.1 hone
      exact ⟨speed, List.mem_singleton_self speed, Nat.le_of_eq rfl⟩
    · rcases exists_le_meanOf h with hlow | hlimit
      · exact hlow
      · exact ⟨x, hx, hlimit ▸ hle⟩

theorem meanOf_of_not_within (h : samples ≠ []) (hnot : ¬ Within samples (meanOf samples)) :
    meanOf samples = meanLimit ∧ ∀ x ∈ samples, meanOf samples < x := by
  have hbelow : ∀ x ∈ samples, meanOf samples < x :=
    fun x hx => Nat.lt_of_not_le fun hle => hnot ⟨⟨x, hx, hle⟩, exists_ge_meanOf h⟩
  rcases exists_le_meanOf h with ⟨low, hmem, hlow⟩ | hlimit
  · exact absurd hlow (Nat.not_le.2 (hbelow low hmem))
  · exact ⟨hlimit, hbelow⟩

/-- samples that are all the same have themselves as their mean just when it is between them -/
theorem meanOf_eq_iff {x : Nat} (h : samples ≠ []) (hsame : ∀ y ∈ samples, y = x) :
    meanOf samples = x ↔ samples.length = 1 ∨ x ≤ meanLimit := by
  obtain ⟨y, hy⟩ := List.exists_mem_of_ne_nil samples h
  obtain rfl := hsame y hy
  have hexists : (∃ x ∈ samples, x ≤ meanLimit) ↔ y ≤ meanLimit :=
    ⟨fun ⟨x, hx, hle⟩ => hsame x hx ▸ hle, fun hle => ⟨y, hy, hle⟩⟩
  rw [← hexists, ← within_meanOf_iff h]
  constructor
  · intro heq
    exact ⟨⟨y, hy, Nat.le_of_eq heq.symm⟩, ⟨y, hy, Nat.le_of_eq heq⟩⟩
  · rintro ⟨⟨low, hlow, hle⟩, ⟨high, hhigh, hge⟩⟩
    rw [hsame low hlow] at hle
    rw [hsame high hhigh] at hge
    exact Nat.le_antisymm hge hle

end

end DirectionCounters

/-! ## The speed of a transfer -/

/-- 32 bits of bytes in a nanosecond at least -/
theorem speed_lt (bytes : UInt32) (elapsed : Duration) : bytes.toNat * 1000000000 / elapsed.nanoseconds < 2 ^ 62 := by
  have hbytes := bytes.toNat_lt
  have hle := Nat.div_le_self (bytes.toNat * 1000000000) elapsed.nanoseconds
  omega

/-- no speed is lost to overflow -/
theorem speed?_eq (bytes : UInt32) (elapsed : Duration) :
    speed? bytes.toNat elapsed =
      if elapsed.nanoseconds = 0 then none else some (bytes.toNat * 1000000000 / elapsed.nanoseconds) := by
  have hlt := speed_lt bytes elapsed
  have hfits : ¬ UInt64.size ≤ bytes.toNat * 1000000000 / elapsed.nanoseconds := by
    rw [show UInt64.size = 2 ^ 64 from rfl]
    omega
  simp only [speed?, hfits, or_false]

namespace Statistics

/-! ## What the calls alone tell -/

/-- a call that the speeds hang on -/
inductive Call where
  | setTracking (on : Bool)
  | transfer (direction : Direction) (bytes : UInt32) (elapsed : Duration)
  deriving DecidableEq, Repr

/-- whether speeds are tracked after a call, if they were or were not before -/
def Call.tracks (on : Bool) : Call → Bool
  | setTracking on' => on'
  | transfer .. => on

/-- the sample that a call gives in a direction: bytes per second, rounded down -/
def Call.sample? (direction : Direction) (on : Bool) : Call → Option Nat
  | setTracking _ => none
  | transfer d bytes elapsed =>
    if on = true ∧ d = direction ∧ elapsed.nanoseconds ≠ 0 then
      some (bytes.toNat * 1000000000 / elapsed.nanoseconds)
    else none

def tracked (history : List Call) : Bool := history.foldl Call.tracks false

/-- the samples of a direction, the oldest first, if speeds were or were not tracked at first -/
def samplesFrom (direction : Direction) : Bool → List Call → List Nat
  | _, [] => []
  | on, c :: rest => (c.sample? direction on).toList ++ samplesFrom direction (c.tracks on) rest

def samples (direction : Direction) (history : List Call) : List Nat := samplesFrom direction false history

/-! ## What the calls do -/

def Call.on (s : Statistics) : Call → Statistics
  | setTracking on => s.setTracking on
  | transfer direction bytes elapsed => s.recordTransfer direction bytes elapsed

/-- the statistics after a history of calls; all counters are 0 at first -/
def after (history : List Call) : Statistics := history.foldl Call.on {}

theorem after_snoc (history : List Call) (c : Call) : after (history ++ [c]) = c.on (after history) :=
  List.foldl_append

/-- the latest speed and the mean of a direction -/
def speeds (s : Statistics) (direction : Direction) : Nat × Nat :=
  ((s.counters direction).speedLast, (s.counters direction).speedMean)

def mix (v : Nat × Nat) (speed : Nat) : Nat × Nat := (speed, DirectionCounters.mixed v.2 speed)

section

variable (s : Statistics) (direction : Direction) (c : Call)

theorem tracking_on : (c.on s).tracking = c.tracks s.tracking := by
  cases c with
  | setTracking on => rfl
  | transfer d bytes elapsed => cases d <;> rfl

theorem tracking_after (history : List Call) : (after history).tracking = tracked history := by
  induction history using List.reverseRecOn with
  | nil => rfl
  | append_singleton history c ih =>
    rw [after_snoc, tracking_on, ih, tracked, tracked, List.foldl_append]
    rfl

/-- a transfer goes to the counters of its direction -/
theorem counters_recordTransfer (d : Direction) (bytes : UInt32) (elapsed : Duration) :
    (s.recordTransfer d bytes elapsed).counters direction =
      if d = direction then (s.counters direction).record bytes elapsed s.tracking else s.counters direction := by
  cases d <;> cases direction <;> rfl

/-- a call changes the two speeds by its sample, if it gives one -/
theorem speeds_on : (c.on s).speeds direction =
    (c.sample? direction s.tracking).toList.foldl mix (s.speeds direction) := by
  cases c with
  | setTracking on => cases direction <;> rfl
  | transfer d bytes elapsed =>
    simp only [Call.on, speeds, counters_recordTransfer, Call.sample?]
    by_cases hd : d = direction
    · cases htrack : s.tracking with
      | false => simp [hd, DirectionCounters.record]
      | true =>
        by_cases htime : elapsed.nanoseconds = 0 <;>
          simp [hd, htime, DirectionCounters.record, speed?_eq, DirectionCounters.sample, mix]
    · simp [hd]

theorem speeds_run (history : List Call) : (history.foldl Call.on s).speeds direction =
    (samplesFrom direction s.tracking history).foldl mix (s.speeds direction) := by
  induction history generalizing s with
  | nil => rfl
  | cons c rest ih =>
    rw [List.foldl_cons, ih, tracking_on, speeds_on, samplesFrom, List.foldl_append]

/-- the latest of some samples, and their mean -/
theorem foldl_mix (v : Nat × Nat) (xs : List Nat) :
    xs.foldl mix v = (xs.getLast?.getD v.1, xs.foldl DirectionCounters.mixed v.2) := by
  induction xs using List.reverseRecOn with
  | nil => rfl
  | append_singleton xs x ih =>
    rw [List.foldl_append, ih, List.foldl_append, List.getLast?_concat]
    rfl

theorem speeds_after (history : List Call) : (after history).speeds direction =
    ((samples direction history).getLast?.getD 0, DirectionCounters.meanOf (samples direction history)) := by
  have hrun := speeds_run {} direction history
  rw [foldl_mix] at hrun
  cases direction <;> exact hrun

end

/-- what gives no sample changes neither speed -/
theorem speeds_snoc {direction : Direction} {history : List Call} {c : Call}
    (h : c.sample? direction (tracked history) = none) :
    (after (history ++ [c])).speeds direction = (after history).speeds direction := by
  rw [after_snoc, speeds_on, tracking_after, h]
  rfl

theorem sample?_eq_none {direction d : Direction} {on : Bool} {bytes : UInt32} {elapsed : Duration}
    (h : d ≠ direction ∨ on = false ∨ elapsed.nanoseconds = 0) :
    (Call.transfer d bytes elapsed).sample? direction on = none := by
  refine if_neg ?_
  rintro ⟨hon, hd, htime⟩
  rcases h with h | h | h
  · exact h hd
  · rw [h] at hon
    cases hon
  · exact htime h

/-- **The mean speed stays between its samples, unless all of them are above 2 ^ 61 - 1 and there are two or more.**
After any history of calls, in each direction:
- the latest speed is that of the last sample, and 0 if there is none; no sample is lost to overflow;
- once there is a sample, the mean is between the least and the greatest just when it is the only one or one of them is
below 2 ^ 61;
- otherwise the mean is 2 ^ 61 - 1, below all of them;
- samples that are all the same have themselves as their mean just when there is one of them or they are below 2 ^ 61;
- transfers of the other direction, or recorded while tracking is off, or in no time, change neither speed, and turning
the tracking on or off changes neither. -/
theorem speeds_told (history : List Call) (direction : Direction) :
    let c := (after history).counters direction
    let xs := samples direction history
    c.speedLast = xs.getLast?.getD 0 ∧
    (xs = [] → c.speedMean = 0) ∧
    (xs ≠ [] →
      (DirectionCounters.Within xs c.speedMean ↔ xs.length = 1 ∨ ∃ x ∈ xs, x < 2 ^ 61) ∧
      (¬ DirectionCounters.Within xs c.speedMean → c.speedMean = 2 ^ 61 - 1 ∧ ∀ x ∈ xs, c.speedMean < x) ∧
      ∀ x : Nat, (∀ y ∈ xs, y = x) → (c.speedMean = x ↔ xs.length = 1 ∨ x < 2 ^ 61)) ∧
    (∀ (d : Direction) (bytes : UInt32) (elapsed : Duration),
      d ≠ direction ∨ tracked history = false ∨ elapsed.nanoseconds = 0 →
      (after (history ++ [.transfer d bytes elapsed])).speeds direction = (c.speedLast, c.speedMean)) ∧
    ∀ on : Bool, (after (history ++ [.setTracking on])).speeds direction = (c.speedLast, c.speedMean) := by
  intro c xs
  have hspeeds : (c.speedLast, c.speedMean) = (xs.getLast?.getD 0, DirectionCounters.meanOf xs) :=
    speeds_after direction history
  obtain ⟨hlast, hmean⟩ := Prod.mk.inj hspeeds
  have hbelow : ∀ x, x ≤ DirectionCounters.meanLimit ↔ x < 2 ^ 61 := by
    intro x
    rw [DirectionCounters.meanLimit_eq]
    omega
  refine ⟨hlast, fun hnil => by rw [hmean, hnil]; rfl, fun hsome => ?_, fun d bytes elapsed h => ?_, fun on => ?_⟩
  · rw [hmean]
    simp only [← hbelow, ← DirectionCounters.meanLimit_eq]
    exact ⟨DirectionCounters.within_meanOf_iff hsome, DirectionCounters.meanOf_of_not_within hsome,
      fun x hsame => DirectionCounters.meanOf_eq_iff hsome hsame⟩
  · exact speeds_snoc (sample?_eq_none h)
  · exact speeds_snoc rfl

/-- two transfers of the greatest length, a nanosecond each -/
def fastTwice : List Call := [.setTracking true, .transfer .up 4294967295 ⟨1⟩, .transfer .up 4294967295 ⟨1⟩]

/-- their mean is about half of what both of them are -/
theorem mean_leaves_fastTwice :
    samples .up fastTwice = [4294967295000000000, 4294967295000000000] ∧
    ((after fastTwice).counters .up).speedLast = 4294967295000000000 ∧
    ((after fastTwice).counters .up).speedMean = 2305843009213693951 ∧
    ¬ DirectionCounters.Within (samples .up fastTwice) ((after fastTwice).counters .up).speedMean := by
  have hsamples : samples .up fastTwice = [4294967295000000000, 4294967295000000000] := by decide
  have hmean : ((after fastTwice).counters .up).speedMean = 2305843009213693951 := by decide
  refine ⟨hsamples, by decide, hmean, ?_⟩
  rw [hsamples, hmean]
  rintro ⟨⟨low, hmem, hlow⟩, -⟩
  have hsame : low = 4294967295000000000 := by simpa using hmem
  omega

end Statistics
end BoardDriver

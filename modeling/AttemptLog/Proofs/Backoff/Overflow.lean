import AttemptLog.Proofs.Backoff.Schedule
/-!
Which policies can be computed.

Two things go wrong while something is tried again: a delay is too long to be doubled, even if the result would be
cut, and one more than the greatest random part does not fit into sixty-four bits. A sum of a delay and a random part
is too long only where the delay is too long to be doubled anyway (`waited_lt`), so the numbers that are drawn make no
difference (`computes_iff_double`). The delay that counts is the longest one before a call that the policy allows
(`peak`). `arithmetic_safe_iff` says which runs come to no result, and which policies have none of these runs and keep
their greatest random part; `arithmetic_unsafe_at_bounds` shows a policy of each kind that fails.
-/
namespace AttemptLog.Backoff

variable {backoff : Backoff}

/-! ## One wait -/

theorem waited_lt (backoff : Backoff) {nanos : Nat} (h : nanos * 2 < UInt64.size * secondNanos) (drawn : UInt64) :
    backoff.waited nanos drawn < UInt64.size * secondNanos := by
  have hmillis := backoff.jitterMillis_lt
  refine (backoff.waited_le nanos drawn).trans_lt ?_
  unfold UInt64.size secondNanos at *
  omega

theorem computes_iff_double {nanos : Nat} {drawn : UInt64} :
    backoff.Computes nanos drawn ↔ nanos * 2 < UInt64.size * secondNanos ∧ backoff.jitterMillis + 1 < UInt64.size :=
  ⟨fun h => ⟨h.double, h.jitter⟩, fun ⟨hdouble, hjitter⟩ => ⟨hdouble, hjitter, backoff.waited_lt hdouble drawn⟩⟩

theorem not_computes_iff {nanos : Nat} {drawn : UInt64} :
    ¬ backoff.Computes nanos drawn ↔
      UInt64.size * secondNanos ≤ nanos * 2 ∨ backoff.jitterMillis + 1 = UInt64.size := by
  have hmillis := backoff.jitterMillis_lt
  rw [computes_iff_double, not_and_or, Nat.not_lt]
  exact or_congr Iff.rfl (by omega)

theorem fits_iff_double {nanos : Nat} :
    backoff.Fits nanos ↔ nanos * 2 < UInt64.size * secondNanos ∧ backoff.jitterMillis + 1 < UInt64.size := by
  simp only [fits_iff_computes, computes_iff_double, forall_const]

/-! ## The longest delay -/

/-- the longest delay, in nanoseconds, after a call that is not the last one the policy allows -/
def peak (backoff : Backoff) : Nat :=
  max backoff.base.nanos (min (backoff.base.nanos * 2 ^ (backoff.calls - 2)) backoff.longest.nanos)

theorem delayAfter_le_peak {index : Nat} (h : index + 1 < backoff.calls) : backoff.delayAfter index ≤ backoff.peak := by
  cases index with
  | zero => exact le_max_left _ _
  | succ index =>
    have hpower : 2 ^ (index + 1) ≤ 2 ^ (backoff.calls - 2) := Nat.pow_le_pow_right Nat.two_pos (by omega)
    rw [delayAfter_succ]
    exact (min_le_min_right _ (Nat.mul_le_mul_left _ hpower)).trans (le_max_right _ _)

theorem exists_delayAfter_eq_peak (h : 1 < backoff.calls) :
    ∃ index, index + 1 < backoff.calls ∧ backoff.delayAfter index = backoff.peak := by
  by_cases hbase : min (backoff.base.nanos * 2 ^ (backoff.calls - 2)) backoff.longest.nanos ≤ backoff.base.nanos
  · exact ⟨0, h, (max_eq_left hbase).symm⟩
  · -- the base itself would not be less than what is cut from it
    have hlater : 0 < backoff.calls - 2 := by
      refine Nat.pos_of_ne_zero fun hzero => hbase ?_
      rw [hzero, pow_zero, Nat.mul_one]
      exact min_le_left _ _
    refine ⟨backoff.calls - 2, by omega, ?_⟩
    rw [delayAfter_eq_min (.inl hlater), peak, max_eq_right (Nat.le_of_not_le hbase)]

/-- **Nothing overflows in a policy exactly when** its longest delay can be doubled and its greatest random part be
counted. -/
theorem neverOverflows_iff :
    backoff.NeverOverflows ↔ (1 < backoff.calls →
      backoff.peak * 2 < UInt64.size * secondNanos ∧ backoff.jitterMillis + 1 < UInt64.size) := by
  constructor
  · intro h hcalls
    obtain ⟨index, hindex, hpeak⟩ := exists_delayAfter_eq_peak hcalls
    rw [← hpeak]
    exact fits_iff_double.1 (h index hindex)
  · intro h index hindex
    obtain ⟨hdouble, hjitter⟩ := h (by omega)
    exact fits_iff_double.2 ⟨(Nat.mul_le_mul_right 2 (delayAfter_le_peak hindex)).trans_lt hdouble, hjitter⟩

/-! ## Runs -/

theorem isLastCall_of_failing {last index : Nat}
    (h : IsLastCall (fun _ => true) (fun _ => (.error () : Except Unit Unit)) last index) : index = last :=
  h.1.resolve_left nofun

/-- a policy of which every run comes to a result -/
def AlwaysReturns (backoff : Backoff) : Prop :=
  ∀ {ε α : Type} (mayPass : ε → Bool) (results : Nat → Except ε α) (draws : Nat → UInt64),
    ((backoff.retry mayPass World.draw World.pause World.call).run ⟨results, draws, []⟩).1 ≠ none

theorem alwaysReturns_iff : backoff.AlwaysReturns ↔ backoff.NeverOverflows := by
  constructor
  · intro h index hindex
    refine fits_iff_computes.2 fun drawn => ?_
    obtain ⟨last, hlast, ⟨hall, -⟩ | ⟨-, hnone⟩⟩ := run_retry_endsAt backoff (fun _ => true)
      (fun _ => (.error () : Except Unit Unit)) fun _ => drawn
    · have hevery := isLastCall_of_failing hlast
      exact hall index (by omega)
    · exact absurd hnone (h _ _ _)
  · intro h ε α mayPass results draws
    obtain ⟨last, later, -, hrun, -⟩ := h.endsAt mayPass results draws
    rw [hrun]
    exact Option.some_ne_none _

/-- **Which runs and policies are safe.** Let a policy be any, and let the results of all calls there could be, the
failures that may pass, and the numbers that are drawn be any.

- A run comes to no result exactly if there is a retry before which the delay is too long to be doubled, or one more
  than the greatest random part does not fit into sixty-four bits. Else it comes to the result of its last call.
- A delay that can be doubled is never too long for a sum with a random part.
- All runs of a policy come to a result, and its greatest random part is kept, exactly if it allows no second call, or
  if its longest delay can be doubled and one more than the greatest random part, in milliseconds, fits into
  sixty-four bits. -/
theorem arithmetic_safe_iff (backoff : Backoff) :
    (∀ {ε α : Type} (mayPass : ε → Bool) (results : Nat → Except ε α) (draws : Nat → UInt64),
      ∃ last, IsLastCall mayPass results (max 1 backoff.calls - 1) last ∧
        (((backoff.retry mayPass World.draw World.pause World.call).run ⟨results, draws, []⟩).1 = none ↔
          ∃ index < last, UInt64.size * secondNanos ≤ backoff.delayAfter index * 2 ∨
            backoff.jitterMillis + 1 = UInt64.size) ∧
        (((backoff.retry mayPass World.draw World.pause World.call).run ⟨results, draws, []⟩).1 ≠ none →
          ((backoff.retry mayPass World.draw World.pause World.call).run ⟨results, draws, []⟩).1 =
            some (results last))) ∧
      (∀ nanos drawn, UInt64.size * secondNanos ≤ backoff.waited nanos drawn → UInt64.size * secondNanos ≤ nanos * 2) ∧
      (backoff.AlwaysReturns ∧ (1 < backoff.calls → backoff.jitterMillis = backoff.jitterLimit) ↔
        (1 < backoff.calls →
          backoff.peak * 2 < UInt64.size * secondNanos ∧ backoff.jitterLimit + 1 < UInt64.size)) := by
  refine ⟨fun mayPass results draws => ?_, fun nanos drawn hlong => ?_, ?_⟩
  · obtain ⟨last, hlast, ⟨hall, hresult, -⟩ | ⟨⟨index, hindex, hfails⟩, hnone⟩⟩ :=
      run_retry_endsAt backoff mayPass results draws
    · refine ⟨last, hlast, iff_of_false (hresult ▸ Option.some_ne_none _) ?_, fun _ => hresult⟩
      rintro ⟨index, hindex, hoverflows⟩
      exact not_computes_iff.2 hoverflows (hall index hindex)
    · exact ⟨last, hlast, iff_of_true hnone ⟨index, hindex, not_computes_iff.1 hfails⟩, fun hsome => absurd hnone hsome⟩
  · by_contra hshort
    exact absurd (backoff.waited_lt (Nat.lt_of_not_le hshort) drawn) (Nat.not_lt_of_le hlong)
  · rw [alwaysReturns_iff, neverOverflows_iff, jitterMillis_eq_jitterLimit_iff]
    constructor
    · rintro ⟨hsafe, hkept⟩ hcalls
      obtain ⟨hdouble, hjitter⟩ := hsafe hcalls
      exact ⟨hdouble, jitterMillis_eq_jitterLimit_iff.2 (hkept hcalls) ▸ hjitter⟩
    · intro hsafe
      refine ⟨fun hcalls => ⟨(hsafe hcalls).1, ?_⟩, fun hcalls => Nat.lt_of_succ_lt (hsafe hcalls).2⟩
      exact (Nat.succ_le_succ backoff.jitterMillis_le_jitterLimit).trans_lt (hsafe hcalls).2

/-- the usual policy is safe -/
theorem arithmetic_safe_iff_standard :
    standard.AlwaysReturns ∧ (1 < standard.calls → standard.jitterMillis = standard.jitterLimit) :=
  (arithmetic_safe_iff standard).2.2.2 fun _ => by decide

/-- one more than the greatest random part does not fit into sixty-four bits -/
def widest : Backoff := ⟨2, .ofMillis 1, .ofMillis 1, some (.ofMillis 18446744073709551615)⟩

/-- the base cannot be doubled, although twice the base would be cut at a millisecond -/
def farthest : Backoff := ⟨2, ⟨2 ^ 63 * secondNanos, by decide⟩, .ofMillis 1, none⟩

/-- the greatest random part does not fit into sixty-four bits -/
def wrapped : Backoff := ⟨2, .ofMillis 1, .ofMillis 1, some ⟨UInt64.size * 1000000, by decide⟩⟩

/-- both calls fail, and there is no result; or nothing is left of the greatest random part -/
theorem arithmetic_unsafe_at_bounds :
    ((widest.retry (fun _ => true) World.draw World.pause World.call).run
        ⟨fun _ => (.error "transient" : Except String Nat), fun _ => 0, []⟩).1 = none ∧
      ((farthest.retry (fun _ => true) World.draw World.pause World.call).run
        ⟨fun _ => (.error "transient" : Except String Nat), fun _ => 0, []⟩).1 = none ∧
      wrapped.jitterMillis = 0 ∧ wrapped.jitterLimit = UInt64.size :=
  ⟨rfl, rfl, by decide, by decide⟩

end AttemptLog.Backoff

import AttemptLog.Proofs.Backoff
/-!
How long is waited before something is tried again.

The delays of a policy have a closed form: the base is doubled for each retry before, and cut at the longest delay
(`delayAfter_succ`). The first delay is the base itself and is not cut. So each wait keeps the closed form in a policy
whose base is not longer than the longest delay, and each wait but the first one in any other (`delayAfter_eq_min`).
`waits_scheduled` says so of the waits of a whole run, together with their random parts, their bound and their order;
`first_wait_too_long` is a first wait that is longer than the longest one.
-/
namespace AttemptLog.Backoff

variable {backoff : Backoff}

/-! ## Delays -/

theorem delayAfter_succ (backoff : Backoff) (index : Nat) :
    backoff.delayAfter (index + 1) = min (backoff.base.nanos * 2 ^ (index + 1)) backoff.longest.nanos := by
  induction index with
  | zero => rfl
  | succ index ih =>
    calc backoff.delayAfter (index + 2)
        = backoff.doubled (backoff.delayAfter (index + 1)) := Function.iterate_succ_apply' _ _ _
      _ = min (min (backoff.base.nanos * 2 ^ (index + 1)) backoff.longest.nanos * 2) backoff.longest.nanos := by
        rw [ih, doubled]
      _ = min (backoff.base.nanos * 2 ^ (index + 2)) backoff.longest.nanos := by
        rw [pow_succ 2 (index + 1), ← Nat.mul_assoc]
        omega

theorem delayAfter_eq_min {index : Nat} (h : 0 < index ∨ backoff.base.nanos ≤ backoff.longest.nanos) :
    backoff.delayAfter index = min (backoff.base.nanos * 2 ^ index) backoff.longest.nanos := by
  cases index with
  | zero =>
    have hbase : backoff.base.nanos ≤ backoff.longest.nanos := h.resolve_left (Nat.lt_irrefl 0)
    rw [pow_zero, Nat.mul_one, min_eq_left hbase]
    rfl
  | succ index => exact backoff.delayAfter_succ index

/-! ## Random parts -/

/-- the greatest random part in whole milliseconds, however many there are -/
def jitterLimit (backoff : Backoff) : Nat := (backoff.jitter.map Span.millis).getD 0

theorem jitterMillis_le_jitterLimit (backoff : Backoff) : backoff.jitterMillis ≤ backoff.jitterLimit := Nat.mod_le _ _

theorem jitterMillis_eq_jitterLimit_iff :
    backoff.jitterMillis = backoff.jitterLimit ↔ backoff.jitterLimit < UInt64.size :=
  Nat.mod_eq_iff_lt (by decide)

theorem jitterLimit_eq_zero_iff : backoff.jitterLimit = 0 ↔ ∀ span ∈ backoff.jitter, span.nanos < 1000000 := by
  unfold jitterLimit
  cases backoff.jitter with
  | none => exact iff_of_true rfl nofun
  | some span =>
    simp only [Option.map_some, Option.getD_some, Option.mem_some_iff, forall_eq']
    exact Nat.div_eq_zero_iff_lt (by decide)

theorem jitterLimit_mul_le (backoff : Backoff) :
    backoff.jitterLimit * 1000000 ≤ (backoff.jitter.map Span.nanos).getD 0 := by
  unfold jitterLimit
  cases backoff.jitter with
  | none => exact Nat.le_refl 0
  | some span => exact Nat.div_mul_le_self _ _

/-- may a wait have this random part in milliseconds if this number is drawn -/
structure RandomPart (backoff : Backoff) (drawn : UInt64) (millis : Nat) : Prop where
  le : millis ≤ backoff.jitterLimit
  eq : backoff.jitterLimit < UInt64.size → millis = drawn.toNat % (backoff.jitterLimit + 1)

theorem exists_randomPart (backoff : Backoff) (nanos : Nat) (drawn : UInt64) :
    ∃ millis, backoff.RandomPart drawn millis ∧ backoff.waited nanos drawn = nanos + millis * 1000000 := by
  refine ⟨drawn.toNat % (backoff.jitterMillis + 1), ⟨?_, fun hlimit => ?_⟩, rfl⟩
  · exact (Nat.le_of_lt_succ (Nat.mod_lt _ (Nat.succ_pos _))).trans backoff.jitterMillis_le_jitterLimit
  · rw [jitterMillis_eq_jitterLimit_iff.2 hlimit]

theorem RandomPart.nanos_le {drawn : UInt64} {millis : Nat} (h : backoff.RandomPart drawn millis) :
    millis * 1000000 ≤ (backoff.jitter.map Span.nanos).getD 0 :=
  (Nat.mul_le_mul_right _ h.le).trans backoff.jitterLimit_mul_le

/-! ## Waits -/

def Event.wait? : Event → Option Nat
  | .called => none
  | .paused nanos => some nanos

def waits (events : List Event) : List Nat := events.filterMap Event.wait?

@[simp] theorem waits_callsWith (nanos : List Nat) : waits (callsWith nanos) = nanos := by
  induction nanos with
  | nil => rfl
  | cons first rest ih =>
    have hrest : waits (callsWith (first :: rest)) = first :: waits (callsWith rest) := rfl
    rw [hrest, ih]

/-- is this the wait, in nanoseconds, before the retry with this index: the base is doubled for each retry before, cut
at the longest delay, and a random part is added -/
def OnSchedule (backoff : Backoff) (index : Nat) (drawn : UInt64) (nanos : Nat) : Prop :=
  ∃ millis, backoff.RandomPart drawn millis ∧
    nanos = min (backoff.base.nanos * 2 ^ index) backoff.longest.nanos + millis * 1000000

theorem onSchedule_waited {index : Nat} (h : 0 < index ∨ backoff.base.nanos ≤ backoff.longest.nanos) (drawn : UInt64) :
    backoff.OnSchedule index drawn (backoff.waited (backoff.delayAfter index) drawn) := by
  obtain ⟨millis, hpart, hwaited⟩ := backoff.exists_randomPart (backoff.delayAfter index) drawn
  exact ⟨millis, hpart, by rw [hwaited, delayAfter_eq_min h]⟩

theorem OnSchedule.le {index nanos : Nat} {drawn : UInt64} (h : backoff.OnSchedule index drawn nanos) :
    nanos ≤ backoff.longest.nanos + (backoff.jitter.map Span.nanos).getD 0 := by
  obtain ⟨millis, hpart, rfl⟩ := h
  exact Nat.add_le_add (min_le_right _ _) hpart.nanos_le

theorem OnSchedule.le_of_le {index next nanos other : Nat} {drawn another : UInt64} (hlimit : backoff.jitterLimit = 0)
    (h : backoff.OnSchedule index drawn nanos) (hnext : backoff.OnSchedule next another other) (hle : index ≤ next) :
    nanos ≤ other := by
  obtain ⟨millis, hpart, rfl⟩ := h
  obtain ⟨more, -, rfl⟩ := hnext
  have hzero : millis = 0 := Nat.le_zero.1 (hlimit ▸ hpart.le)
  rw [hzero, Nat.zero_mul, Nat.add_zero]
  exact (min_le_min_right _ (Nat.mul_le_mul_left _ (Nat.pow_le_pow_right Nat.two_pos hle))).trans (Nat.le_add_right _ _)

/-- **Waits are on schedule.** Let nothing overflow in a policy, and let the results of all calls there could be, the
failures that may pass, and the numbers that are drawn be any.

- There is a wait before each retry, and no other.
- The wait before a retry is the base, doubled for each retry before and cut at the longest delay, with a random part
  of whole milliseconds up to the greatest one. This holds of the first wait only if the base is not longer than the
  longest delay; else the first wait is the base with its random part.
- A wait on schedule is never longer than the longest delay and the greatest random part together. There is no random
  part if none is set, or less than a millisecond; the waits on schedule never decrease then. -/
theorem waits_scheduled {ε α : Type} (backoff : Backoff) (h : backoff.NeverOverflows) (mayPass : ε → Bool)
    (results : Nat → Except ε α) (draws : Nat → UInt64) :
    ∃ last later, IsLastCall mayPass results (max 1 backoff.calls - 1) last ∧
      (backoff.retry mayPass World.draw World.pause World.call).run ⟨results, draws, []⟩ =
        (some (results last), later) ∧
      later.events = callsWith (waits later.events) ∧ (waits later.events).length = last ∧
      (∀ index nanos, (waits later.events)[index]? = some nanos →
        (0 < index ∨ backoff.base.nanos ≤ backoff.longest.nanos →
            backoff.OnSchedule index (draws index) nanos ∧
              nanos ≤ backoff.longest.nanos + (backoff.jitter.map Span.nanos).getD 0) ∧
          (index = 0 → ∃ millis, backoff.RandomPart (draws index) millis ∧
            nanos = backoff.base.nanos + millis * 1000000)) ∧
      (backoff.jitterLimit = 0 ↔ ∀ span ∈ backoff.jitter, span.nanos < 1000000) ∧
      (backoff.jitterLimit = 0 → ∀ index next nanos other, index ≤ next →
        0 < index ∨ backoff.base.nanos ≤ backoff.longest.nanos →
          (waits later.events)[index]? = some nanos → (waits later.events)[next]? = some other → nanos ≤ other) := by
  obtain ⟨last, later, hlast, hrun, hevents⟩ := h.endsAt mayPass results draws
  have hwait : ∀ index nanos, (waits later.events)[index]? = some nanos →
      nanos = backoff.waited (backoff.delayAfter index) (draws index) := by
    intro index nanos hnanos
    rw [hevents, waits_callsWith] at hnanos
    obtain ⟨hindex, hvalue⟩ := List.getElem?_eq_some_iff.1 hnanos
    rw [List.getElem_map, List.getElem_range] at hvalue
    exact hvalue.symm
  have hscheduled : ∀ index nanos, (waits later.events)[index]? = some nanos →
      0 < index ∨ backoff.base.nanos ≤ backoff.longest.nanos → backoff.OnSchedule index (draws index) nanos := by
    intro index nanos hnanos hcut
    rw [hwait index nanos hnanos]
    exact onSchedule_waited hcut _
  refine ⟨last, later, hlast, hrun, ?_, ?_, fun index nanos hnanos => ⟨fun hcut => ?_, ?_⟩, jitterLimit_eq_zero_iff, ?_⟩
  · rw [hevents, waits_callsWith]
  · rw [hevents, waits_callsWith, List.length_map, List.length_range]
  · have hschedule := hscheduled index nanos hnanos hcut
    exact ⟨hschedule, hschedule.le⟩
  · rintro rfl
    rw [hwait 0 nanos hnanos]
    exact backoff.exists_randomPart _ _
  · intro hlimit index next nanos other hle hcut hnanos hother
    exact (hscheduled index nanos hnanos hcut).le_of_le hlimit
      (hscheduled next other hother (hcut.imp_left fun hindex => hindex.trans_le hle)) hle

/-- the delay is cut before the third wait; an eight that is drawn is a random part of two milliseconds -/
def rising : Backoff := ⟨4, .ofMillis 20, .ofMillis 50, some (.ofMillis 5)⟩

theorem rising_bounded : Bounded rising := by
  constructor <;> decide

/-- four calls fail, and the last of three waits is cut at fifty milliseconds before two are added to it -/
theorem waits_scheduled_rising :
    rising.NeverOverflows ∧
      ∃ later, (rising.retry (fun _ => true) World.draw World.pause World.call).run
          ⟨fun _ => (.error "transient" : Except String Nat), fun _ => 8, []⟩ = (some (.error "transient"), later) ∧
        (waits later.events)[2]? = some 52000000 := by
  obtain ⟨last, later, hlast, hrun, -, hlength, hwaits, -⟩ := waits_scheduled rising rising_bounded.neverOverflows
    (fun _ => true) (fun _ => (.error "transient" : Except String Nat)) fun _ => 8
  have hthree : last = 3 := hlast.1.resolve_left nofun
  have hthird := List.getElem?_eq_getElem (l := waits later.events) (i := 2) (by omega)
  obtain ⟨⟨millis, hpart, hsum⟩, -⟩ := (hwaits 2 _ hthird).1 (.inl (by decide))
  have hmillis : millis = 2 := hpart.eq (by decide)
  refine ⟨rising_bounded.neverOverflows, later, hrun, ?_⟩
  rw [hthird, hsum, hmillis]
  rfl

/-- a base of a hundred milliseconds, although the longest delay is ten -/
def steep : Backoff := ⟨2, .ofMillis 100, .ofMillis 10, none⟩

theorem steep_neverOverflows : steep.NeverOverflows := by
  intro index hindex
  obtain rfl : index = 0 := by
    have hcalls : steep.calls = 2 := rfl
    omega
  constructor <;> decide

/-- the first wait is not cut at the longest delay -/
theorem first_wait_too_long :
    ¬ ∀ backoff : Backoff, backoff.NeverOverflows → ∀ (results : Nat → Except String Nat) (draws : Nat → UInt64)
        (index nanos : Nat),
        (waits ((backoff.retry (fun _ => true) World.draw World.pause World.call).run
          ⟨results, draws, []⟩).2.events)[index]? = some nanos →
          backoff.OnSchedule index (draws index) nanos := by
  intro hlaw
  obtain ⟨millis, hpart, hsum⟩ :=
    hlaw steep steep_neverOverflows (fun _ => .error "transient") (fun _ => 0) 0 100000000 rfl
  have hnone : millis ≤ 0 := hpart.le
  have hcut : min (steep.base.nanos * 2 ^ 0) steep.longest.nanos = 10000000 := by decide
  omega

end AttemptLog.Backoff

import AttemptLog.Backoff
import Mathlib.Tactic
/-!
How often is called, and which result is returned.

A policy is run here against a `World` that holds the results of all calls there could be and all numbers that could
be drawn, and keeps what happens. `Computes` says that nothing overflows while a delay is waited for with the number
that is drawn, and doubled (`computes_iff`); `Fits` says so of a delay whatever is drawn (`fits_iff`), and
`NeverOverflows` of each delay that a policy can come to. `run_retryFrom_endsAt` is the run from any delay with any
number of calls left, by induction on that number; `retry_returns` is the run of a whole policy.
-/
namespace AttemptLog

theorem Span.min_nanos (a b : Span) : (a.min b).nanos = Min.min a.nanos b.nanos := by
  unfold Span.min
  split_ifs with hless
  · exact (min_eq_right hless.le).symm
  · exact (min_eq_left (Nat.le_of_not_lt hless)).symm

namespace Backoff

variable {backoff : Backoff}

/-! ## Waits -/

/-- the delay after one of this many nanoseconds -/
def doubled (backoff : Backoff) (nanos : Nat) : Nat := min (nanos * 2) backoff.longest.nanos

/-- the delay in nanoseconds, before its random part, after the call with this index -/
def delayAfter (backoff : Backoff) (index : Nat) : Nat := backoff.doubled^[index] backoff.base.nanos

def waited (backoff : Backoff) (nanos : Nat) (drawn : UInt64) : Nat :=
  nanos + drawn.toNat % (backoff.jitterMillis + 1) * 1000000

/-- nothing overflows when a delay of this many nanoseconds is waited for, whatever is drawn, and doubled -/
structure Fits (backoff : Backoff) (nanos : Nat) : Prop where
  double : nanos * 2 < UInt64.size * secondNanos
  jitter : backoff.jitterMillis + 1 < UInt64.size
  wait : nanos + backoff.jitterMillis * 1000000 < UInt64.size * secondNanos

/-- nothing overflows when a delay of this many nanoseconds is waited for with this number drawn, and doubled -/
structure Computes (backoff : Backoff) (nanos : Nat) (drawn : UInt64) : Prop where
  double : nanos * 2 < UInt64.size * secondNanos
  jitter : backoff.jitterMillis + 1 < UInt64.size
  wait : backoff.waited nanos drawn < UInt64.size * secondNanos

/-- nothing overflows after any call that is not the last one -/
def NeverOverflows (backoff : Backoff) : Prop :=
  ∀ index, index + 1 < backoff.calls → backoff.Fits (backoff.delayAfter index)

theorem jitterMillis_lt (backoff : Backoff) : backoff.jitterMillis < UInt64.size := Nat.mod_lt _ (by decide)

theorem jitterMillis_of_none (h : backoff.jitter = none) : backoff.jitterMillis = 0 := by
  simp only [jitterMillis, h, Option.map_none, Option.getD_none, Nat.zero_mod]

theorem waited_of_jitterMillis (h : backoff.jitterMillis = 0) (nanos : Nat) (drawn : UInt64) :
    backoff.waited nanos drawn = nanos := by
  simp only [waited, h, Nat.zero_add, Nat.mod_one, Nat.zero_mul, Nat.add_zero]

theorem waited_le (backoff : Backoff) (nanos : Nat) (drawn : UInt64) :
    backoff.waited nanos drawn ≤ nanos + backoff.jitterMillis * 1000000 := by
  have hdrawn : drawn.toNat % (backoff.jitterMillis + 1) < backoff.jitterMillis + 1 := Nat.mod_lt _ (Nat.succ_pos _)
  unfold waited
  omega

/-- a random part that is always zero is not added -/
theorem wait?_of_jitterMillis (h : backoff.jitterMillis = 0) (delay : Span) (drawn : UInt64) :
    backoff.wait? delay drawn = some delay := by
  unfold wait?
  split
  · rfl
  · rw [if_pos h]

theorem wait?_of_ne (h : backoff.jitterMillis ≠ 0) (delay : Span) (drawn : UInt64) :
    backoff.wait? delay drawn = if backoff.jitterMillis + 1 = UInt64.size then none
      else Span.ofNanos? (backoff.waited delay.nanos drawn) := by
  have hdrawn : drawn.toNat % (backoff.jitterMillis + 1) < UInt64.size :=
    (Nat.mod_lt _ (Nat.succ_pos _)).trans_le backoff.jitterMillis_lt
  unfold wait?
  split
  · next hnone => exact absurd (jitterMillis_of_none hnone) h
  · refine (if_neg h).trans (if_congr Iff.rfl rfl ?_)
    simp only [Span.add?, Span.ofMillis, waited, UInt64.toNat_ofNat_of_lt' hdrawn]

theorem Computes.wait?_eq {delay : Span} {drawn : UInt64} (h : backoff.Computes delay.nanos drawn) :
    ∃ wait, backoff.wait? delay drawn = some wait ∧ wait.nanos = backoff.waited delay.nanos drawn := by
  by_cases hzero : backoff.jitterMillis = 0
  · exact ⟨delay, wait?_of_jitterMillis hzero delay drawn, (waited_of_jitterMillis hzero _ drawn).symm⟩
  · refine ⟨⟨_, h.wait⟩, ?_, rfl⟩
    rw [wait?_of_ne hzero, if_neg h.jitter.ne, Span.ofNanos?, dif_pos h.wait]

theorem Computes.nextDelay?_eq {delay : Span} {drawn : UInt64} (h : backoff.Computes delay.nanos drawn) :
    ∃ next, backoff.nextDelay? delay = some next ∧ next.nanos = backoff.doubled delay.nanos := by
  refine ⟨Span.min ⟨delay.nanos * 2, h.double⟩ backoff.longest, ?_, Span.min_nanos _ _⟩
  rw [nextDelay?, Span.double?, Span.ofNanos?, dif_pos h.double]
  rfl

theorem Computes.congr {nanos : Nat} {drawn other : UInt64}
    (h : backoff.waited nanos drawn = backoff.waited nanos other) :
    backoff.Computes nanos drawn ↔ backoff.Computes nanos other :=
  ⟨fun hdrawn => ⟨hdrawn.double, hdrawn.jitter, h ▸ hdrawn.wait⟩,
    fun hother => ⟨hother.double, hother.jitter, h.symm ▸ hother.wait⟩⟩

/-- nothing overflows exactly when the wait and the delay after it can be computed -/
theorem computes_iff (delay : Span) (drawn : UInt64) :
    backoff.Computes delay.nanos drawn ↔
      (backoff.wait? delay drawn).isSome ∧ (backoff.nextDelay? delay).isSome := by
  constructor
  · intro h
    obtain ⟨wait, hwait, -⟩ := h.wait?_eq
    obtain ⟨next, hnext, -⟩ := h.nextDelay?_eq
    rw [hwait, hnext]
    exact ⟨rfl, rfl⟩
  · rintro ⟨hwait, hnext⟩
    have hdouble : delay.nanos * 2 < UInt64.size * secondNanos := by
      by_contra hlong
      rw [nextDelay?, Span.double?, Span.ofNanos?, dif_neg hlong] at hnext
      cases hnext
    by_cases hzero : backoff.jitterMillis = 0
    · refine ⟨hdouble, by rw [hzero]; decide, ?_⟩
      rw [waited_of_jitterMillis hzero]
      exact delay.inRange
    · rw [wait?_of_ne hzero] at hwait
      split_ifs at hwait with hfull
      · cases hwait
      · refine ⟨hdouble, by have := backoff.jitterMillis_lt; omega, ?_⟩
        by_contra hlong
        rw [Span.ofNanos?, dif_neg hlong] at hwait
        cases hwait

/-- nothing overflows whatever is drawn exactly when nothing does for the greatest random part -/
theorem fits_iff_computes {nanos : Nat} : backoff.Fits nanos ↔ ∀ drawn, backoff.Computes nanos drawn := by
  constructor
  · intro h drawn
    exact ⟨h.double, h.jitter, (backoff.waited_le nanos drawn).trans_lt h.wait⟩
  · intro h
    -- the greatest random part is drawn by this number
    have hgreatest := h (.ofNat backoff.jitterMillis)
    have hdrawn : backoff.waited nanos (.ofNat backoff.jitterMillis) = nanos + backoff.jitterMillis * 1000000 := by
      rw [waited, UInt64.toNat_ofNat_of_lt' backoff.jitterMillis_lt, Nat.mod_eq_of_lt (Nat.lt_succ_self _)]
    exact ⟨hgreatest.double, hgreatest.jitter, hdrawn ▸ hgreatest.wait⟩

theorem Fits.computes {nanos : Nat} (h : backoff.Fits nanos) (drawn : UInt64) : backoff.Computes nanos drawn :=
  fits_iff_computes.1 h drawn

/-- **Nothing overflows exactly when** each wait and the delay after it can be computed, whatever is drawn. -/
theorem fits_iff (delay : Span) :
    backoff.Fits delay.nanos ↔
      (∀ drawn, (backoff.wait? delay drawn).isSome) ∧ (backoff.nextDelay? delay).isSome := by
  simp only [fits_iff_computes, computes_iff, forall_and, forall_const]

/-- the waits of a policy never get too long to be computed -/
structure Bounded (backoff : Backoff) : Prop where
  base : backoff.base.nanos ≤ backoff.longest.nanos
  double : backoff.longest.nanos * 2 < UInt64.size * secondNanos
  jitter : backoff.jitterMillis + 1 < UInt64.size
  wait : backoff.longest.nanos + backoff.jitterMillis * 1000000 < UInt64.size * secondNanos

theorem transaction_bounded : Bounded transaction := by
  constructor <;> decide

theorem doubled_le (backoff : Backoff) (nanos : Nat) : backoff.doubled nanos ≤ backoff.longest.nanos := min_le_right _ _

theorem Bounded.fits (h : backoff.Bounded) {nanos : Nat} (hnanos : nanos ≤ backoff.longest.nanos) :
    backoff.Fits nanos where
  double := (Nat.mul_le_mul_right 2 hnanos).trans_lt h.double
  jitter := h.jitter
  wait := (Nat.add_le_add_right hnanos _).trans_lt h.wait

theorem Bounded.delayAfter_le (h : backoff.Bounded) (index : Nat) :
    backoff.delayAfter index ≤ backoff.longest.nanos := by
  cases index with
  | zero => exact h.base
  | succ index =>
    rw [delayAfter, Function.iterate_succ_apply']
    exact backoff.doubled_le _

theorem Bounded.neverOverflows (h : backoff.Bounded) : backoff.NeverOverflows :=
  fun index _ => h.fits (h.delayAfter_le index)

/-! ## Runs -/

/-- what happens when something is tried again -/
inductive Event where
  | called
  | paused (nanos : Nat)
  deriving DecidableEq

/-- the results of the calls to come, the numbers to be drawn, and what happened so far -/
structure World (ε α : Type) where
  results : Nat → Except ε α
  draws : Nat → UInt64
  events : List Event

namespace World

variable {ε α : Type}

def called (world : World ε α) : World ε α :=
  { world with results := fun index => world.results (index + 1), events := world.events ++ [Event.called] }

def call : StateM (World ε α) (Except ε α) := modifyGet fun world => (world.results 0, world.called)

def draw : StateM (World ε α) UInt64 :=
  modifyGet fun world => (world.draws 0, { world with draws := fun index => world.draws (index + 1) })

def pause (span : Span) : StateM (World ε α) Unit :=
  modify fun world => { world with events := world.events ++ [Event.paused span.nanos] }

end World

/-- calls with these waits between them -/
def callsWith (waits : List Nat) : List Event :=
  .called :: waits.flatMap fun nanos => [Event.paused nanos, Event.called]

variable {ε α : Type} {mayPass : ε → Bool}

/-- a result after which there is no call, however many are left -/
def Stands (mayPass : ε → Bool) : Except ε α → Prop
  | .ok _ => True
  | .error error => mayPass error = false

theorem not_stands_iff {result : Except ε α} :
    ¬ Stands mayPass result ↔ ∃ error, result = .error error ∧ mayPass error = true := by
  cases result with
  | ok value => exact ⟨fun h => absurd trivial h, fun ⟨error, herror, _⟩ => by cases herror⟩
  | error error => simp only [Stands, Bool.not_eq_false, Except.error.injEq, exists_eq_left']

/-- the first of these results after which there is no call, where this one is the last one -/
def IsLastCall (mayPass : ε → Bool) (results : Nat → Except ε α) (last index : Nat) : Prop :=
  IsLeast {index | Stands mayPass (results index) ∨ index = last} index

theorem isLastCall_zero {results : Nat → Except ε α} {last : Nat} (h : Stands mayPass (results 0) ∨ last = 0) :
    IsLastCall mayPass results last 0 := ⟨h.imp_right Eq.symm, fun index _ => index.zero_le⟩

theorem IsLastCall.succ {results : Nat → Except ε α} {last index : Nat} (hgoes : ¬ Stands mayPass (results 0))
    (h : IsLastCall mayPass (fun index => results (index + 1)) last index) :
    IsLastCall mayPass results (last + 1) (index + 1) := by
  refine ⟨h.1.imp_right (congrArg Nat.succ), fun other hother => ?_⟩
  cases other with
  | zero => exact absurd (hother.resolve_right (Nat.succ_ne_zero last).symm) hgoes
  | succ other => exact Nat.succ_le_succ (h.2 (hother.imp_right Nat.succ.inj))

theorem IsLastCall.pos {results : Nat → Except ε α} {last index : Nat} (hgoes : ¬ Stands mayPass (results 0))
    (h : IsLastCall mayPass results (last + 1) index) : 0 < index := by
  refine Nat.pos_of_ne_zero ?_
  rintro rfl
  exact hgoes (h.1.resolve_right (Nat.succ_ne_zero last).symm)

theorem exists_isLastCall (mayPass : ε → Bool) (results : Nat → Except ε α) (last : Nat) :
    ∃ index, IsLastCall mayPass results last index := by
  classical
  exact ⟨_, Nat.isLeast_find (p := fun index => Stands mayPass (results index) ∨ index = last) ⟨last, .inr rfl⟩⟩

theorem callsWith_cons (nanos : Nat) (waits : List Nat) :
    callsWith (nanos :: waits) = [.called, .paused nanos] ++ callsWith waits := rfl

/-- the wait after a call that failed, where `go` goes on with the delay after it -/
def waitThen (backoff : Backoff) (delay : Span) (drawn : UInt64)
    (go : Span → StateM (World ε α) (Option (Except ε α))) : StateM (World ε α) (Option (Except ε α)) :=
  match backoff.wait? delay drawn with
  | none => pure none
  | some wait => do
    World.pause wait
    match backoff.nextDelay? delay with
    | none => pure none
    | some delay => go delay

theorem run_waitThen {delay : Span} {drawn : UInt64} (h : backoff.Computes delay.nanos drawn) (world : World ε α) :
    ∃ next, next.nanos = backoff.doubled delay.nanos ∧
      ∀ go : Span → StateM (World ε α) (Option (Except ε α)),
        (backoff.waitThen delay drawn go).run world =
          (go next).run
            { world with events := world.events ++ [Event.paused (backoff.waited delay.nanos drawn)] } := by
  obtain ⟨wait, hwait, hnanos⟩ := h.wait?_eq
  obtain ⟨next, hnext, hdoubled⟩ := h.nextDelay?_eq
  refine ⟨next, hdoubled, fun go => ?_⟩
  rw [waitThen, hwait, hnext, ← hnanos]
  rfl

/-- there is no result if the wait or the delay after it overflows -/
theorem run_waitThen_none {delay : Span} {drawn : UInt64} (h : ¬ backoff.Computes delay.nanos drawn) (world : World ε α)
    (go : Span → StateM (World ε α) (Option (Except ε α))) :
    ((backoff.waitThen delay drawn go).run world).1 = none := by
  rw [computes_iff] at h
  cases hwait : backoff.wait? delay drawn with
  | none =>
    rw [waitThen, hwait]
    rfl
  | some wait =>
    cases hnext : backoff.nextDelay? delay with
    | none =>
      rw [waitThen, hwait, hnext]
      rfl
    | some next =>
      rw [hwait, hnext] at h
      exact absurd ⟨rfl, rfl⟩ h

variable {left : Nat} {delay : Span} {world : World ε α}

theorem run_of_stands (h : Stands mayPass (world.results 0)) :
    (backoff.retryFrom mayPass World.draw World.pause World.call (left + 1) delay).run world =
      (some (world.results 0), world.called) := by
  change StateT.run (match world.results 0 with | .ok _ => _ | .error _ => _) world.called = _
  cases hresult : world.results 0 with
  | ok value => rfl
  | error error =>
    have hstands : mayPass error = false := by rwa [hresult] at h
    simp only [hstands]
    rfl

/-- do a number and those after it give the random parts that the numbers of this world give -/
structure DrawnFrom (backoff : Backoff) (world : World ε α) (drawn : UInt64) (draws : Nat → UInt64) : Prop where
  first : ∀ nanos, backoff.waited nanos drawn = backoff.waited nanos (world.draws 0)
  later : ∀ nanos index, backoff.waited nanos (draws index) = backoff.waited nanos (world.draws (index + 1))

/-- after a result that does not stand, there is a wait, and then the rest with one call less; no number is drawn for a
random part that is always zero -/
theorem run_of_not_stands (backoff : Backoff) (left : Nat) (delay : Span) (h : ¬ Stands mayPass (world.results 0)) :
    ∃ drawn draws, backoff.DrawnFrom world drawn draws ∧
      (backoff.retryFrom mayPass World.draw World.pause World.call (left + 1) delay).run world =
        (backoff.waitThen delay drawn (backoff.retryFrom mayPass World.draw World.pause World.call left)).run
          { world.called with draws := draws } := by
  obtain ⟨error, hresult, hpasses⟩ := not_stands_iff.1 h
  have hrun : (backoff.retryFrom mayPass World.draw World.pause World.call (left + 1) delay).run world =
      StateT.run (match world.results 0 with | .ok _ => _ | .error _ => _) world.called := rfl
  rw [hresult] at hrun
  simp only [hpasses, Bool.not_true, Bool.false_eq_true, ite_false] at hrun
  by_cases hzero : backoff.jitterMillis = 0
  · refine ⟨0, world.draws, ⟨fun nanos => ?_, fun nanos index => ?_⟩, hrun.trans ?_⟩
    · rw [waited_of_jitterMillis hzero, waited_of_jitterMillis hzero]
    · rw [waited_of_jitterMillis hzero, waited_of_jitterMillis hzero]
    · rw [if_pos hzero]
      rfl
  · refine ⟨world.draws 0, fun index => world.draws (index + 1), ⟨fun nanos => rfl, fun nanos index => rfl⟩,
      hrun.trans ?_⟩
    rw [if_neg hzero]
    rfl

/-- how a run ends whose last call has this index: with the result of this call, after waits of these delays, if nothing
overflows in them, and else with none -/
def EndsAt (backoff : Backoff) (delays : Nat → Nat) (world : World ε α) (last : Nat)
    (ending : Option (Except ε α) × World ε α) : Prop :=
  (∀ index < last, backoff.Computes (delays index) (world.draws index)) ∧ ending.1 = some (world.results last) ∧
      ending.2.events = world.events ++
        callsWith ((List.range last).map fun index => backoff.waited (delays index) (world.draws index)) ∨
    (∃ index < last, ¬ backoff.Computes (delays index) (world.draws index)) ∧ ending.1 = none

theorem EndsAt.succ {delays draws} {drawn : UInt64} {last : Nat} {ending : Option (Except ε α) × World ε α}
    (hdrawn : backoff.DrawnFrom world drawn draws) (hfirst : backoff.Computes (delays 0) drawn)
    (h : backoff.EndsAt (fun index => delays (index + 1))
      ⟨world.called.results, draws,
        world.called.events ++ [Event.paused (backoff.waited (delays 0) drawn)]⟩ last ending) :
    backoff.EndsAt delays world (last + 1) ending := by
  rcases h with ⟨hall, hresult, hevents⟩ | ⟨⟨index, hindex, hfails⟩, hnone⟩
  · refine .inl ⟨fun index hindex => ?_, hresult, hevents.trans ?_⟩
    · cases index with
      | zero => exact (Computes.congr (hdrawn.first _)).1 hfirst
      | succ index => exact (Computes.congr (hdrawn.later _ _)).1 (hall index (Nat.lt_of_succ_lt_succ hindex))
    · simp only [List.range_succ_eq_map, List.map_cons, List.map_map, callsWith_cons, hdrawn.first, hdrawn.later]
      simp only [World.called, List.append_assoc]
      rfl
  · refine .inr ⟨⟨index + 1, Nat.succ_lt_succ hindex, fun hcomputes => hfails ?_⟩, hnone⟩
    exact (Computes.congr (hdrawn.later _ _)).2 hcomputes

/-- **A run from any delay, with any number of calls left.** The calls end with the first result that stands, or with
the last call there may be, unless something overflows before; between them are waits of the delays. -/
theorem run_retryFrom_endsAt (backoff : Backoff) (mayPass : ε → Bool) (left : Nat) (delay : Span) (world : World ε α) :
    ∃ last, IsLastCall mayPass world.results left last ∧
      backoff.EndsAt (fun index => backoff.doubled^[index] delay.nanos) world last
        ((backoff.retryFrom mayPass World.draw World.pause World.call left delay).run world) := by
  induction left generalizing delay world with
  | zero => exact ⟨0, isLastCall_zero (.inr rfl), .inl ⟨nofun, rfl, rfl⟩⟩
  | succ left ih =>
    by_cases hstands : Stands mayPass (world.results 0)
    · rw [run_of_stands hstands]
      exact ⟨0, isLastCall_zero (.inl hstands), .inl ⟨nofun, rfl, rfl⟩⟩
    · obtain ⟨drawn, draws, hdrawn, hrun⟩ := run_of_not_stands backoff left delay hstands
      rw [hrun]
      by_cases hfirst : backoff.Computes delay.nanos drawn
      · obtain ⟨next, hnext, hgo⟩ := run_waitThen hfirst { world.called with draws := draws }
        obtain ⟨last, hlast, hrest⟩ := ih next
          ⟨world.called.results, draws, world.called.events ++ [Event.paused (backoff.waited delay.nanos drawn)]⟩
        rw [hnext] at hrest
        rw [hgo]
        exact ⟨last + 1, hlast.succ hstands, EndsAt.succ hdrawn hfirst hrest⟩
      · obtain ⟨last, hlast⟩ := exists_isLastCall mayPass world.results (left + 1)
        refine ⟨last, hlast, .inr ⟨⟨0, hlast.pos hstands, fun hcomputes => hfirst ?_⟩, run_waitThen_none hfirst _ _⟩⟩
        exact (Computes.congr (hdrawn.first _)).2 hcomputes

/-- a run in which nothing overflows, whatever is drawn -/
theorem run_retryFrom (left : Nat) (delay : Span) (world : World ε α)
    (hfits : ∀ index < left, backoff.Fits (backoff.doubled^[index] delay.nanos)) :
    ∃ last later, IsLastCall mayPass world.results left last ∧
      (backoff.retryFrom mayPass World.draw World.pause World.call left delay).run world =
        (some (world.results last), later) ∧
      later.events = world.events ++ callsWith ((List.range last).map fun index =>
        backoff.waited (backoff.doubled^[index] delay.nanos) (world.draws index)) := by
  obtain ⟨last, hlast, ⟨-, hresult, hevents⟩ | ⟨⟨index, hindex, hfails⟩, -⟩⟩ :=
    run_retryFrom_endsAt backoff mayPass left delay world
  · exact ⟨last, _, hlast, Prod.ext hresult rfl, hevents⟩
  · have hle : last ≤ left := hlast.2 (.inr rfl)
    exact absurd ((hfits index (hindex.trans_le hle)).computes _) hfails

/-- **A run of a whole policy.** It ends with the first result that stands, or that of the last call the policy allows,
exactly if nothing overflows in the waits before it. -/
theorem run_retry_endsAt (backoff : Backoff) (mayPass : ε → Bool) (results : Nat → Except ε α) (draws : Nat → UInt64) :
    ∃ last, IsLastCall mayPass results (max 1 backoff.calls - 1) last ∧
      backoff.EndsAt backoff.delayAfter ⟨results, draws, []⟩ last
        ((backoff.retry mayPass World.draw World.pause World.call).run ⟨results, draws, []⟩) := by
  have hcalls : max 1 backoff.calls - 1 = backoff.calls - 1 := by omega
  rw [hcalls]
  exact run_retryFrom_endsAt backoff mayPass (backoff.calls - 1) backoff.base ⟨results, draws, []⟩

theorem NeverOverflows.endsAt (h : backoff.NeverOverflows) (mayPass : ε → Bool) (results : Nat → Except ε α)
    (draws : Nat → UInt64) :
    ∃ last later, IsLastCall mayPass results (max 1 backoff.calls - 1) last ∧
      (backoff.retry mayPass World.draw World.pause World.call).run ⟨results, draws, []⟩ =
        (some (results last), later) ∧
      later.events = callsWith ((List.range last).map fun index =>
        backoff.waited (backoff.delayAfter index) (draws index)) := by
  have hcalls : max 1 backoff.calls - 1 = backoff.calls - 1 := by omega
  rw [hcalls]
  exact run_retryFrom (backoff.calls - 1) backoff.base ⟨results, draws, []⟩ fun index hindex => h index (by omega)

@[simp] theorem count_callsWith (waits : List Nat) : (callsWith waits).count .called = waits.length + 1 := by
  induction waits with
  | nil => rfl
  | cons nanos waits ih =>
    rw [callsWith_cons, List.count_append, ih, List.length_cons, Nat.add_comm]
    rfl

theorem getLast?_callsWith (waits : List Nat) : (callsWith waits).getLast? = some .called := by
  induction waits with
  | nil => rfl
  | cons nanos waits ih => rw [callsWith_cons, List.getLast?_append, ih, Option.some_or]

/-- **Trying again returns the first result that stands.** Let nothing overflow in a policy, and let the results of
all calls there could be, the failures that may pass, and the numbers that are drawn be any.

- The last call is the first one whose result is a success, a failure that may not pass, or that of the last call the
  policy allows, which is the first one where it allows none. Its result is returned as it is.
- As many calls are made as stand up to that one. There are waits between them, each of the delay after the call
  before it with its random part, and none after the last call.
- Trying again whatever failed is trying again where all failures may pass. -/
theorem retry_returns {ε α : Type} (backoff : Backoff) (h : backoff.NeverOverflows) (mayPass : ε → Bool)
    (results : Nat → Except ε α) (draws : Nat → UInt64) :
    (∃ last later, IsLastCall mayPass results (max 1 backoff.calls - 1) last ∧
      (backoff.retry mayPass World.draw World.pause World.call).run ⟨results, draws, []⟩ =
        (some (results last), later) ∧
      later.events.count .called = last + 1 ∧ last + 1 ≤ max 1 backoff.calls ∧
      later.events = callsWith ((List.range last).map fun index =>
        backoff.waited (backoff.delayAfter index) (draws index)) ∧
      later.events.getLast? = some .called) ∧
    ∀ {m : Type → Type} [Monad m] (draw : m UInt64) (pause : Span → m Unit) (call : m (Except ε α)),
      backoff.retryAll draw pause call = backoff.retry (fun _ => true) draw pause call := by
  have hcalls : max 1 backoff.calls - 1 = backoff.calls - 1 := by omega
  obtain ⟨last, later, hlast, hrun, hevents⟩ :=
    run_retryFrom (backoff.calls - 1) backoff.base ⟨results, draws, []⟩
      fun index hindex => h index (by omega)
  rw [List.nil_append] at hevents
  rw [hcalls]
  have hle : last ≤ backoff.calls - 1 := hlast.2 (.inr rfl)
  refine ⟨⟨last, later, hlast, hrun, ?_, by omega, hevents, ?_⟩, fun draw pause call => rfl⟩
  · rw [hevents, count_callsWith, List.length_map, List.length_range]
  · rw [hevents, getLast?_callsWith]

/-- two calls fail in a way that passes, and the third one succeeds -/
def thirdTime (index : Nat) : Except String Nat := if index < 2 then .error "transient" else .ok index

/-- the policy for transactions allows three calls, of which the last one succeeds after waits of fifteen and of
twenty-five milliseconds -/
theorem retry_returns_third :
    transaction.NeverOverflows ∧
      ∃ later, (transaction.retry (fun error => error == "transient") World.draw World.pause World.call).run
          ⟨thirdTime, fun _ => 26, []⟩ = (some (.ok 2), later) ∧
        later.events = [.called, .paused 15000000, .called, .paused 25000000, .called] := by
  obtain ⟨last, later, hlast, hrun, -, -, hevents, -⟩ := (retry_returns transaction transaction_bounded.neverOverflows
    (fun error => error == "transient") thirdTime fun _ => 26).1
  have htwo : IsLastCall (fun error => error == "transient") thirdTime 2 2 := by
    refine ⟨.inr rfl, fun index hindex => ?_⟩
    rcases hindex with hstands | rfl
    · by_contra hless
      rw [thirdTime, if_pos (Nat.lt_of_not_le hless)] at hstands
      cases hstands
    · exact le_rfl
  cases hlast.unique htwo
  exact ⟨transaction_bounded.neverOverflows, later, hrun, hevents⟩

end Backoff

end AttemptLog

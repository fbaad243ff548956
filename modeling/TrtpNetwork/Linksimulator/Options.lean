import TrtpNetwork.Linksimulator.QuietTurns

/-!
# The options of the simulator

The numbers on the command line are used as `strtol` returns them: the ports are cut to 16 bits, the
rates are remainders modulo 101 and become `unsigned int`, and so do the delay and the jitter.

The applied delay is a remainder, and its divisor may wrap around to 0 (`DivisorVanishes`).
`link_undefined_iff` says which turns get there.  With numbers that are not negative and fit in an
`int` none does, and the rates are percentages (`sensible_of_options`, `link_defined_of_options`).
-/

namespace TrtpNetwork

/-! ## The command line -/

/-- The options that set a parameter of the link, with the numbers `parse_number` returned. -/
inductive LinkOption where
  | forwardPort (n : ℤ)
  | delay (n : ℤ)
  | jitter (n : ℤ)
  | errRate (n : ℤ)
  | cutRate (n : ℤ)
  | lossRate (n : ℤ)
  | reverse
  | bothWays

/-- The number of an option. -/
def LinkOption.number : LinkOption → Option ℤ
  | .forwardPort n | .delay n | .jitter n | .errRate n | .cutRate n | .lossRate n => some n
  | .reverse | .bothWays => none

/-- The defaults: the loopback address and port 12345. -/
def defaultParams : LinkParams where
  delay := 0
  jitter := 0
  errRate := 0
  cutRate := 0
  lossRate := 0
  linkDirection := .forward
  destAddr := ⟨1, 12345, 0⟩

/-- The switch of `main`, whose `%` has the sign of the number. -/
def setOption (params : LinkParams) : LinkOption → LinkParams
  | .forwardPort n => { params with destAddr := ⟨1, UInt16.ofInt n, 0⟩ }
  | .delay n => { params with delay := UInt32.ofInt n }
  | .jitter n => { params with jitter := UInt32.ofInt n }
  | .errRate n => { params with errRate := UInt32.ofInt (n.tmod 101) }
  | .cutRate n => { params with cutRate := UInt32.ofInt (n.tmod 101) }
  | .lossRate n => { params with lossRate := UInt32.ofInt (n.tmod 101) }
  | .reverse => { params with linkDirection := .reverse }
  | .bothWays => { params with linkDirection := .bothWays }

/-- The parameters of a command line. -/
def linkParams (opts : List LinkOption) : LinkParams := opts.foldl setOption defaultParams

variable {params : LinkParams} {s s' : LinkSim}

/-! ## Division by zero -/

/-- A divisor of the applied delay wraps around to 0. -/
def LinkParams.DivisorVanishes (params : LinkParams) : Prop :=
  params.delay < params.jitter ∧ params.delay.toNat + params.jitter.toNat = 2 ^ 32 ∨
    params.jitter ≤ params.delay ∧ params.jitter.toNat = 2 ^ 31

/-- The divisors do not depend on the random numbers. -/
theorem appliedDelay_isSome_iff (draws : Draws) :
    (appliedDelay params draws).isSome = true ↔ ¬ params.DivisorVanishes := by
  have hd := params.delay.toNat_lt
  have hj := params.jitter.toNat_lt
  have hsum : params.delay + params.jitter = 0 ↔
      (params.delay.toNat + params.jitter.toNat) % 2 ^ 32 = 0 := by
    rw [← UInt32.toNat_inj, UInt32.toNat_add]
    rfl
  have hdouble : 2 * params.jitter = 0 ↔ (2 * params.jitter.toNat) % 2 ^ 32 = 0 := by
    rw [← UInt32.toNat_inj, UInt32.toNat_mul]
    rfl
  have hzero : params.jitter ≠ 0 ↔ params.jitter.toNat ≠ 0 := by
    rw [ne_eq, ← UInt32.toNat_inj]
    rfl
  unfold appliedDelay LinkParams.DivisorVanishes
  simp only [hsum, hdouble, hzero, gt_iff_lt, UInt32.lt_iff_toNat_lt, UInt32.le_iff_toNat_le]
  split_ifs <;>
    simp only [Option.isSome_some, Option.isSome_none, true_iff, false_iff, Bool.false_eq_true] <;>
    omega

/-- A turn in which no call fails has no outcome if it passes on what cannot be given a delay. -/
theorem proxyLoop_eq_none {e : ProxyPoll} (he : e.Quiet)
    (hvalid : s.pktQueue.Valid PktSlot.key) (hrunning : s.running = true) {d : Direction}
    {buf : List UInt8} (hout : passedOn params s.source e = some (d, buf))
    (hsim : sameDirection d params.linkDirection = true) (hlater : params.delay ≠ 0)
    (hdivisor : params.DivisorVanishes) : proxyLoop params s e = none := by
  have hready : e.select = .ready true := by
    by_contra hnot
    rw [passedOn, heard_of_not_ready hnot] at hout
    cases hout
  cases hstep : proxyLoop params s e with
  | none => rfl
  | some l =>
    exfalso
    refine proxyLoop_rule (P := fun m => m.source = s.source) (Q := fun _ => False) hvalid
      (fun hidle => ?_) (fun errno hselect => absurd hselect (he.select errno))
      (fun hclock => absurd hclock he.clock) (fun now m ps _ hps _ => hps.frame.1)
      (fun m _ hfailed => hfailed.elim fun k hk => hk (he.sendDelayed k))
      (fun m _ hquiet => absurd hquiet (by rw [hready]; decide)) (fun m t hm _ ht => ?_)
      (fun m t _ _ ht => ?_) hstep
    · rcases hidle with hstopped | heintr
      · rw [hrunning] at hstopped
        cases hstopped
      · exact absurd heintr (he.select _)
    · generalize hcode : ExitCode.success = code at ht
      cases ht with
      | ignored hignored =>
        rw [hm, hout] at hignored
        cases hignored
      | failed _ => cases hcode
      | written hwritten hnow =>
        rw [hm, hout] at hwritten
        obtain ⟨rfl, rfl⟩ := Prod.mk.inj (Option.some.inj hwritten)
        exact hlater (hnow hsim)
      | queued _ _ _ hdelay _ _ =>
        exact (appliedDelay_isSome_iff e.draws).mp (Option.isSome_iff_exists.mpr ⟨_, hdelay⟩)
          hdivisor
    · cases ht with
      | failed hfails => exact he.calls hfails

/-- **When the simulator divides by zero.**  In every run, a turn without outcome passes on a
datagram in a simulated direction, with a delay, and with a divisor that vanishes; and every such
turn in which no call fails is without outcome. -/
theorem link_undefined_iff (params : LinkParams) (mallocQueue : Bool)
    (mallocSlots : Option (ℕ → PktSlot)) (clock : Option Timeval) (s₀ : LinkSim)
    (hinit : LinkSim.init mallocQueue mallocSlots clock = some s₀) (es : List ProxyPoll)
    (s : LinkSim) (hrun : Run (proxyLoop params) (fun _ _ _ => True) s₀ es s)
    (hrunning : s.running = true) (e : ProxyPoll) :
    (proxyLoop params s e = none → params.delay ≠ 0 ∧ params.DivisorVanishes ∧
      ∃ d buf, passedOn params (sourceOf es) e = some (d, buf) ∧
        sameDirection d params.linkDirection = true) ∧
    (e.Quiet → params.delay ≠ 0 → params.DivisorVanishes → ∀ d buf,
      passedOn params (sourceOf es) e = some (d, buf) →
        sameDirection d params.linkDirection = true → proxyLoop params s e = none) := by
  have h : Balanced params es s := (balanced_of_fresh (fresh_of_init hinit)).run hrun
  have hsource := (h.exact hrunning).2
  constructor
  · intro hnone
    by_contra hnot
    obtain ⟨l, hl⟩ : ∃ l, proxyLoop params s e = some l := by
      refine exists_proxyLoop h.valid fun d buf hout hsim => ?_
      by_cases hlater : params.delay = 0
      · exact Or.inl hlater
      · refine Or.inr (Option.isSome_iff_exists.mp ?_)
        rw [appliedDelay_isSome_iff]
        intro hdivisor
        rw [hsource] at hout
        exact hnot ⟨hlater, hdivisor, d, buf, hout, hsim⟩
    rw [hnone] at hl
    cases hl
  · intro he hlater hdivisor d buf hout hsim
    rw [← hsource] at hout
    exact proxyLoop_eq_none he h.valid hrunning hout hsim hlater hdivisor

/-- A delay and a jitter of 2 ^ 31: the first datagram that is heard. -/
theorem link_undefined_first :
    proxyLoop { slowLink with delay := 2147483648, jitter := 2147483648 } startLink
      (turnAt ⟨1, 0⟩ true (.received ⟨2, 1, 0⟩ (List.replicate 10 1))) = none := by
  refine (link_undefined_iff _ true (some emptySlots) (some ⟨0, 0⟩) _ init_startLink [] startLink
    Run.nil rfl _).2 (quiet_turnAt _ _ (by simp)) (by decide) (Or.inr ⟨by decide, by decide⟩)
    .forward (List.replicate 10 1) (by decide +kernel) rfl

/-! ## The numbers on the command line -/

/-- The number of the option, if it has one, is not negative and fits in an `int`. -/
def LinkOption.Sensible (o : LinkOption) : Prop := ∀ n ∈ o.number, 0 ≤ n ∧ n ≤ 2147483647

/-- The rates are percentages, and neither divisor wraps around. -/
structure LinkParams.Sensible (params : LinkParams) : Prop where
  delay : params.delay.toNat < 2 ^ 31
  jitter : params.jitter.toNat < 2 ^ 31
  errRate : params.errRate.toNat ≤ 100
  cutRate : params.cutRate.toNat ≤ 100
  lossRate : params.lossRate.toNat ≤ 100

theorem toNat_ofInt {n : ℤ} (h0 : 0 ≤ n) (h : n ≤ 2147483647) :
    (UInt32.ofInt n).toNat = n.toNat := by
  rw [UInt32.ofInt, Int.emod_eq_of_lt h0 (by omega)]
  exact UInt32.toNat_ofNat_of_lt' (by show n.toNat < 2 ^ 32; omega)

theorem toNat_rate {n : ℤ} (h0 : 0 ≤ n) : (UInt32.ofInt (n.tmod 101)).toNat ≤ 100 := by
  have hrest := Int.tmod_nonneg 101 h0
  have hlt := Int.tmod_lt_of_pos n (show (0 : ℤ) < 101 by decide)
  rw [toNat_ofInt hrest (by omega)]
  omega

/-- One option. -/
theorem LinkParams.Sensible.setOption (h : params.Sensible) {o : LinkOption} (ho : o.Sensible) :
    (setOption params o).Sensible := by
  cases o with
  | forwardPort n => exact ⟨h.delay, h.jitter, h.errRate, h.cutRate, h.lossRate⟩
  | delay n =>
    obtain ⟨h0, hint⟩ := ho n rfl
    refine ⟨?_, h.jitter, h.errRate, h.cutRate, h.lossRate⟩
    show (UInt32.ofInt n).toNat < 2 ^ 31
    rw [toNat_ofInt h0 hint]
    omega
  | jitter n =>
    obtain ⟨h0, hint⟩ := ho n rfl
    refine ⟨h.delay, ?_, h.errRate, h.cutRate, h.lossRate⟩
    show (UInt32.ofInt n).toNat < 2 ^ 31
    rw [toNat_ofInt h0 hint]
    omega
  | errRate n => exact ⟨h.delay, h.jitter, toNat_rate (ho n rfl).1, h.cutRate, h.lossRate⟩
  | cutRate n => exact ⟨h.delay, h.jitter, h.errRate, toNat_rate (ho n rfl).1, h.lossRate⟩
  | lossRate n => exact ⟨h.delay, h.jitter, h.errRate, h.cutRate, toNat_rate (ho n rfl).1⟩
  | reverse => exact ⟨h.delay, h.jitter, h.errRate, h.cutRate, h.lossRate⟩
  | bothWays => exact ⟨h.delay, h.jitter, h.errRate, h.cutRate, h.lossRate⟩

theorem sensible_of_options {opts : List LinkOption} (hopts : ∀ o ∈ opts, o.Sensible) :
    (linkParams opts).Sensible := by
  have hfold : ∀ params : LinkParams, params.Sensible →
      (opts.foldl setOption params).Sensible := by
    induction opts with
    | nil => exact fun _ h => h
    | cons o opts ih =>
      intro params h
      exact ih (fun o' ho' => hopts o' (List.mem_cons_of_mem o ho')) _
        (h.setOption (hopts o List.mem_cons_self))
  exact hfold defaultParams (by constructor <;> decide)

theorem LinkParams.Sensible.not_divisorVanishes (h : params.Sensible) :
    ¬ params.DivisorVanishes := by
  have hdelay := h.delay
  have hjitter := h.jitter
  rintro (⟨-, hsum⟩ | ⟨-, hdouble⟩) <;> omega

/-- **With sensible numbers the simulator does not divide by zero**: for every command line whose
numbers are not negative and fit in an `int`, the rates are percentages, and no turn of any run is
without outcome. -/
theorem link_defined_of_options (opts : List LinkOption) (hopts : ∀ o ∈ opts, o.Sensible)
    (mallocQueue : Bool) (mallocSlots : Option (ℕ → PktSlot)) (clock : Option Timeval)
    (s₀ : LinkSim) (hinit : LinkSim.init mallocQueue mallocSlots clock = some s₀)
    (es : List ProxyPoll) (s : LinkSim)
    (hrun : Run (proxyLoop (linkParams opts)) (fun _ _ _ => True) s₀ es s) :
    (linkParams opts).Sensible ∧ ∀ e, ∃ s', proxyLoop (linkParams opts) s e = some s' := by
  have hsensible := sensible_of_options hopts
  have h : Balanced (linkParams opts) es s := (balanced_of_fresh (fresh_of_init hinit)).run hrun
  refine ⟨hsensible, fun e => exists_proxyLoop h.valid fun _ _ _ _ => Or.inr ?_⟩
  exact Option.isSome_iff_exists.mp
    ((appliedDelay_isSome_iff e.draws).mpr hsensible.not_divisorVanishes)

/-- A delay of 100 ms and a jitter of 150 ms, and a tenth of the packets lost. -/
theorem link_defined_jitter : (linkParams [.delay 100, .jitter 150, .lossRate 10]).Sensible := by
  refine (link_defined_of_options [.delay 100, .jitter 150, .lossRate 10] ?_ true
    (some emptySlots) (some ⟨0, 0⟩) _ init_startLink [] startLink Run.nil).1
  simp [LinkOption.Sensible, LinkOption.number]

end TrtpNetwork

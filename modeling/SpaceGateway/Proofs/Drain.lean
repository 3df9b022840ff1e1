import SpaceGateway.Proofs.Dispatch
/-!
Calls that shut a pool down. The first of them returns when every worker has left. Those that come
after it wait for nobody, so one of them may return while tasks are still in the queue or run.
-/
namespace SpaceGateway
namespace Ledger

section Calls
variable {l l' : Ledger} {s : Shift} {g : Gateway} {n : Nat}

theorem shutdowns_shift (hs : s ≠ .shutDown) (hi : ∀ i, s ≠ .returnFrom i) :
    (l.shift s).gateway.shutdowns = l.gateway.shutdowns := by
  cases s with
  | submit server caller r =>
    change (l.handIn server caller r).gateway.shutdowns = _
    cases ha : l.gateway.pool.accepting with
    | false => rw [handIn_closed ha]
    | true => rw [handIn_accepting ha, (submit_accepting ha).2]
  | shutDown => exact (hs rfl).elim
  | returnFrom i => exact (hi i rfl).elim
  | work w =>
    change (l.worked w _ _).gateway.shutdowns = _
    unfold worked
    split <;> exact workerStep_shutdowns
  | answer w a =>
    change (l.worked w _ _).gateway.shutdowns = _
    unfold worked
    split <;> exact workerResume_shutdowns a
  | elsewhere => rfl

theorem returnFrom_shutdowns {i : Nat} (h : l.Permits (.returnFrom i)) :
    (l.shift (.returnFrom i)).gateway.shutdowns =
      l.gateway.shutdowns.modify i fun c => { c with returned := true } := by
  change (l.gateway.returnFrom i).1.shutdowns = _
  unfold Gateway.returnFrom
  rw [if_pos (show l.gateway.mayReturn i = true from h)]

/-- What the calls that were made so far say of the pool. -/
structure Called (l : Ledger) : Prop where
  waits : ∀ i c, l.gateway.shutdowns[i]? = some c → c.waits = (i == 0)
  closed : l.gateway.shutdowns ≠ [] → l.gateway.pool.accepting = false
  first : ∀ c, l.gateway.shutdowns[0]? = some c → c.returned = true →
    l.gateway.pool.isDrained = true

theorem mayReturn_iff {i : Nat} :
    g.mayReturn i = true ↔ ∃ c, g.shutdowns[i]? = some c ∧ c.returned = false ∧
      (c.waits = true → g.pool.isDrained = true) := by
  unfold Gateway.mayReturn
  cases g.shutdowns[i]? with
  | none => simp
  | some c => cases hr : c.returned <;> cases hw : c.waits <;> simp [hr, hw]

theorem Called.shutDown (h : l.Called) : (l.shift .shutDown).Called := by
  have hcalls : (l.shift .shutDown).gateway.shutdowns =
      l.gateway.shutdowns ++ [{ waits := l.gateway.shutdowns.isEmpty }] := rfl
  refine ⟨?_, fun _ => rfl, ?_⟩
  · intro i c hc
    rw [hcalls, List.getElem?_append] at hc
    split at hc
    · exact h.waits i c hc
    · rename_i hi
      rw [List.getElem?_singleton] at hc
      split at hc
      · cases hc
        rw [show i = l.gateway.shutdowns.length by omega]
        cases l.gateway.shutdowns <;> rfl
      · cases hc
  · intro c hc hr
    rw [hcalls, List.getElem?_append] at hc
    split at hc
    · exact h.first c hc hr
    · rw [List.getElem?_singleton] at hc
      split at hc <;> cases hc
      cases hr

theorem Called.returnFrom (h : l.Called) {i : Nat} (hs : l.Permits (.returnFrom i)) :
    (l.shift (.returnFrom i)).Called := by
  have hpool : (l.shift (.returnFrom i)).gateway.pool = l.gateway.pool := returnFrom_pool _ i
  obtain ⟨c₀, hc₀, -, hwaits⟩ := mayReturn_iff.1 hs
  refine ⟨?_, ?_, ?_⟩
  · intro j c hc
    rw [returnFrom_shutdowns hs, List.getElem?_modify] at hc
    obtain ⟨c', hc', rfl⟩ := Option.map_eq_some_iff.1 hc
    have := h.waits j c' hc'
    split <;> exact this
  · intro hne
    rw [hpool]
    refine h.closed fun he => ?_
    simp [he] at hc₀
  · intro c hc hr
    rw [hpool]
    rw [returnFrom_shutdowns hs, List.getElem?_modify] at hc
    obtain ⟨c', hc', rfl⟩ := Option.map_eq_some_iff.1 hc
    by_cases hi : i = 0
    · subst hi
      rw [hc'] at hc₀
      cases hc₀
      exact hwaits (h.waits 0 _ hc')
    · simp only [hi, if_false] at hr
      exact h.first c' hc' hr

theorem Called.shift (h : l.Called) (hT : l.Tidy) (hs : l.Permits s) : (l.shift s).Called := by
  have hsteps := (hT.shift hs).2
  have hother (h₁ : s ≠ .shutDown) (h₂ : ∀ i, s ≠ .returnFrom i) : (l.shift s).Called := by
    have he := shutdowns_shift (l := l) h₁ h₂
    refine ⟨he ▸ h.waits, ?_, ?_⟩
    · intro hne
      exact (hsteps.closed (h.closed (he ▸ hne))).1
    · intro c hc hr
      exact hsteps.isDrained (h.first c (he ▸ hc) hr)
  cases s with
  | shutDown => exact h.shutDown
  | returnFrom i => exact h.returnFrom hs
  | submit | work | answer | elsewhere => exact hother nofun nofun

theorem called_opening : (opening g n).Called := ⟨nofun, fun h => (h rfl).elim, nofun⟩

theorem called_of_shifts (h : Shifts (opening g n) l) : l.Called := by
  induction h with
  | refl => exact called_opening
  | snoc run permitted ih => exact ih.shift (manned_opening.run run).tidy permitted

/-- The pool is at rest for good: all workers have left, every task that was ever accepted was started
and is over, none runs, and none will be accepted. -/
structure AtRest (l : Ledger) : Prop where
  left : l.gateway.pool.isDrained = true
  started : l.taken = l.accepted
  released : ∀ k, k ∈ l.accepted ↔ k ∈ l.released
  idle : l.gateway.pool.active = 0
  rejects : ∀ l', Shifts l l' → ∀ server caller r,
    (l'.gateway.submit server caller r).1 = .error .closed

theorem Manned.rejects (h : l.Manned n) (hc : l.gateway.pool.accepting = false)
    (run : Shifts l l') (server : ServerId) (caller : CallerId) (r : CallerRequest) :
    (l'.gateway.submit server caller r).1 = .error .closed := by
  rw [submit_closed (h.closed run hc).1]

theorem Manned.atRest (h : l.Manned n) (hn : 0 < n) (hd : l.gateway.pool.isDrained = true) :
    l.AtRest := by
  obtain ⟨hc, hq⟩ := h.left 0 (h.first_stopped hn hd)
  have htaken := h.tidy.taken_eq hq
  refine ⟨hd, htaken, ?_, ?_, fun _ => h.rejects hc⟩
  · intro k
    rw [← htaken]
    refine ⟨fun hk => ?_, h.tidy.done k⟩
    by_contra hr
    obtain ⟨w, hw⟩ := (h.tidy.held k).2 ⟨hk, hr⟩
    obtain ⟨t, call, hb, -⟩ := h.tidy.hand w k hw
    cases worker_stopped hd hb
  · refine List.countP_eq_zero.2 fun worker hm => ?_
    obtain ⟨w, hw⟩ := List.mem_iff_getElem?.1 hm
    rw [worker_stopped hd hw]
    exact nofun

/-- When the first call that shuts a pool down returns, and ever after, the pool is at rest. Each call
after it can return as soon as it is made; all that holds then is that no task is accepted. -/
theorem atRest_of_first_shutdown (hn : 0 < n) (h : Shifts (opening g n) l) :
    (l.Permits (.returnFrom 0) ∨ l.gateway.shutdowns[0]?.any (·.returned) = true → l.AtRest) ∧
      ∀ i c, l.gateway.shutdowns[i]? = some c →
        (l.Permits (.returnFrom i) ↔
          c.returned = false ∧ (i = 0 → l.gateway.pool.isDrained = true)) ∧
        ∀ l', Shifts l l' → ∀ server caller r,
          (l'.gateway.submit server caller r).1 = .error .closed := by
  have hm := manned_opening.run h
  have hcalled := called_of_shifts h
  refine ⟨?_, ?_⟩
  · rintro (hp | hr)
    · obtain ⟨c, hc, -, hwaits⟩ := mayReturn_iff.1 hp
      exact hm.atRest hn (hwaits (hcalled.waits 0 c hc))
    · obtain ⟨c, hc, hr⟩ := Option.any_eq_true _ _ |>.1 hr
      exact hm.atRest hn (hcalled.first c hc hr)
  · intro i c hc
    refine ⟨?_, fun _ => hm.rejects (hcalled.closed ?_)⟩
    · have hwaits := hcalled.waits i c hc
      change l.gateway.mayReturn i = true ↔ _
      simp [mayReturn_iff, hc, hwaits]
    · intro he
      simp [he] at hc

/-- A task is taken, and two calls shut the pool down. -/
def closedTwice : List Shift :=
  [.submit 0 "caller" askToJoin, .work 0, .shutDown, .shutDown]

/-- The task fails, and the worker leaves. -/
def closedTwiceAndOver : List Shift := closedTwice ++ [.answer 0 (.failed "refused"), .work 0]

theorem atRest_when_closed_twice_and_over :
    ((opening hosting 1).shiftAll closedTwiceAndOver).AtRest := by
  refine (atRest_of_first_shutdown Nat.one_pos (shifts_shiftAll .refl ?_)).1 (.inl rfl)
  exact ⟨trivial, rfl, trivial, trivial, ⟨_, rfl⟩, rfl, trivial⟩

/-- The second call may return while the task runs. -/
theorem second_shutdown_does_not_wait :
    ¬ ∀ (g : Gateway) (n : Nat) (l : Ledger), 0 < n → Shifts (opening g n) l →
      ∀ i, l.Permits (.returnFrom i) → l.AtRest := by
  intro h
  have hrun : Shifts (opening hosting 1) ((opening hosting 1).shiftAll closedTwice) :=
    shifts_shiftAll .refl ⟨trivial, rfl, trivial, trivial, trivial⟩
  have hrest := h hosting 1 _ Nat.one_pos hrun 1 rfl
  exact absurd hrest.idle (by decide)

end Calls
end Ledger
end SpaceGateway

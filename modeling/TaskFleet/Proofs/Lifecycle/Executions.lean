import TaskFleet.Proofs.Lifecycle.StateMachine
import TaskFleet.Proofs.Text.Numerals

/-!
# Executions

An execution is in the substrate before its handle is in the store, and for that time the pass that
started it answers for it. `Books.Accounted` says that every execution which was started is recorded
by its task, answered for by the pass at work, or stopped, and that whatever was done was due
(`Deed.Due`). It asks nothing of the handles, so it holds in every run, restarts included
(`executions_of_run`).

That a handle is left alone once it was forgotten is another matter. It takes different handles for
different executions (`Books.Orderly`), and a substrate that is started anew numbers from the
beginning: `forgotten_polled`.
-/

namespace TaskFleet

open Relation (ReflTransGen)

/-- The execution of a task while its life is not over. -/
def Task.running (t : Task) : List String :=
  if t.isTerminal then [] else t.status.execution.toList

/-- A handle that is yet to be issued. -/
def Substrate.Fresh (s : Substrate) (handle : String) : Prop :=
  ∃ n, s.issued < n ∧ handle = s.handle n

namespace Deed

/-- The execution that something is done to. -/
def handle? : Deed → Option String
  | .start handle _ | .poll handle | .cancel handle | .forget handle => some handle
  | .pass _ | .store _ | .ask .. => none

/-- Whether an execution is observed. -/
def polls (handle : String) : Deed → Bool
  | .poll other => other = handle
  | _ => false

/-- Whether an execution is dropped. -/
def forgets (handle : String) : Deed → Bool
  | .forget other => other = handle
  | _ => false

/-- An execution is observed by that deed alone. -/
theorem polls_iff {d : Deed} {handle : String} : d.polls handle = true ↔ d = .poll handle := by
  cases d with
  | poll other => simp [polls]
  | _ => simp [polls]

/-- An execution is dropped by that deed alone. -/
theorem forgets_iff {d : Deed} {handle : String} :
    d.forgets handle = true ↔ d = .forget handle := by
  cases d with
  | forget other => simp [forgets]
  | _ => simp [forgets]

/-- What has been done before something is done. An execution is asked for only on behalf of a task
that has none; what is cut short has been stopped by the same pass; an execution is forgotten by the
pass that has stored the end of its task. -/
def Due (earlier : List Deed) : Deed → Prop
  | .ask request _ tasks => ∃ t, tasks.get request.task = .ok t ∧ t.status.execution = none
  | .store t => t.IsCutShort → ∀ handle ∈ t.status.execution, .cancel handle ∈ thisPass earlier
  | .forget handle =>
      ∃ t, .store t ∈ thisPass earlier ∧ t.isTerminal = true ∧ t.status.execution = some handle
  | .pass _ | .start .. | .poll _ | .cancel _ => True

end Deed

namespace Books

/-- The executions that are to be followed up: those of live tasks, and those that the pass at work
answers for. -/
def pending (b : Books) : List String :=
  b.store.tasks.flatMap Task.running ++ b.account.started.map Prod.fst ++ b.account.ended

/-- Books in which every execution that was started is accounted for. -/
structure Accounted (b : Books) : Prop where
  ended : ∀ handle ∈ b.account.ended, ∃ t ∈ b.store.tasks,
    t.isTerminal = true ∧ t.status.execution = some handle ∧ .store t ∈ thisPass b.trail
  owned : ∀ handle id later earlier, b.trail = later ++ .start handle id :: earlier →
    (∃ t, b.store.get id = .ok t ∧ t.status.execution = some handle) ∨
      .cancel handle ∈ later ∨ (handle, id) ∈ b.account.started
  due : ∀ d earlier, d :: earlier <:+ b.trail → d.Due earlier

/-- Books in which no handle stands for two executions, and none is used that was forgotten. -/
structure Orderly (b : Books) : Prop where
  nodup : b.pending.Nodup
  issued : ∀ handle ∈ b.pending, ¬ b.substrate.Fresh handle
  unforgotten : ∀ handle ∈ b.pending, .forget handle ∉ b.trail
  known : ∀ d ∈ b.trail, ∀ handle ∈ d.handle?, ¬ b.substrate.Fresh handle
  alone : ∀ d earlier, d :: earlier <:+ b.trail → ∀ handle ∈ d.handle?, .forget handle ∉ earlier

end Books

section Handles

variable {s s' : Substrate} {request : ExecutionRequest} {handle : String} {m n : Nat}

/-- Different numbers are written differently. -/
theorem to_digits_injective (h : Nat.toDigits 10 m = Nat.toDigits 10 n) : m = n := by
  have hread := congrArg Text.natural? h
  rw [Text.natural_to_digits, Text.natural_to_digits] at hread
  exact Option.some.inj hread

/-- Different numbers make different handles. -/
theorem Substrate.handle_injective (h : s.handle m = s.handle n) : m = n := by
  have hnumbers : toString m = toString n := (String.append_right_inj _).1 h
  have hdigits := congrArg String.toList hnumbers
  exact to_digits_injective (by simpa [Nat.toString_eq_repr, Nat.repr] using hdigits)

/-- Handles are used up in their order. -/
theorem Substrate.fresh_mono (hstem : s'.launch.stem = s.launch.stem)
    (hissued : s.issued ≤ s'.issued) (h : s'.Fresh handle) : s.Fresh handle := by
  obtain ⟨n, hn, rfl⟩ := h
  refine ⟨n, by omega, ?_⟩
  unfold Substrate.handle
  rw [hstem]

/-- The execution that is started takes a handle that nobody has had. -/
theorem Substrate.submit_spec (h : s.submit request = .ok (s', handle)) :
    s.Fresh handle ∧ ¬ s'.Fresh handle ∧ (∀ other, s'.Fresh other → s.Fresh other) ∧
      ∃ status, s'.executions = s.executions.insert handle status := by
  obtain ⟨course, -, hsame⟩ := map_eq_ok_iff.1 h
  cases hsame
  refine ⟨⟨s.issued + 1, Nat.lt_succ_self _, rfl⟩, ?_, ?_, course.first, rfl⟩
  · rintro ⟨n, hn, heq⟩
    have hsame : s.issued + 1 = n := Substrate.handle_injective heq
    dsimp only at hn
    omega
  · rintro other ⟨n, hn, rfl⟩
    exact ⟨n, Nat.lt_of_succ_lt hn, rfl⟩

end Handles

section Recorded

variable {steady : Prop} {now : Nat} {b b' : Books} {t next : Task} {account : Account}

/-- A task that is over runs nothing. -/
theorem running_of_terminal (h : t.isTerminal = true) : t.running = [] := by
  unfold Task.running
  rw [if_pos h]

/-- A live task runs the execution that it records. -/
theorem running_of_live (h : t.isTerminal = false) : t.running = t.status.execution.toList := by
  unfold Task.running
  rw [h]
  rfl

/-- An execution that is recorded stays recorded. -/
theorem records_move (hsteady : steady) (h : Move steady now b b') :
    b.store.Records b'.store := by
  have hsame : b.store.Records b.store := TaskStore.records_of_found fun _ _ hget => hget
  cases h with
  | note | reserve | release | drop | start | giveUp | forget => exact hsame
  | write old next store account hself hlive hrevision hreplaces hpermits =>
      refine hreplaces.records fun handle hexecution => ?_
      obtain ⟨hkept, -⟩ | ⟨hnone, -⟩ := (hpermits hsteady).execution
      · exact hkept.trans hexecution
      · rw [hexecution] at hnone
        exact nomatch hnone
  | upset _ hunsteady => exact absurd hsteady hunsteady

/-- What is recorded stays recorded through all moves. -/
theorem records_moves (hsteady : steady) (h : ReflTransGen (Move steady now) b b') :
    b.store.Records b'.store := by
  induction h with
  | refl => exact TaskStore.records_of_found fun _ _ hget => hget
  | tail _ hmove ih => exact ih.trans (records_move hsteady hmove)

/-- A task that is over stays in the store as it is. -/
theorem over_move (h : Move steady now b b') (ht : t ∈ b.store.tasks)
    (hover : t.isTerminal = true) : t ∈ b'.store.tasks := by
  cases h with
  | note | reserve | release | drop | start | giveUp | forget => exact ht
  | upset b' _ hstore =>
      rw [hstore]
      exact ht
  | write old next store account hself hlive hrevision hreplaces hpermits =>
      obtain ⟨pre, post, hold, hnew⟩ := hreplaces.split
      show t ∈ store.tasks
      rw [hold] at ht
      rw [hnew]
      obtain hpre | rfl | hpost := by simpa using ht
      · exact List.mem_append_left _ hpre
      · rw [hlive] at hover
        exact nomatch hover
      · exact List.mem_append_right _ (List.mem_cons_of_mem _ hpost)

/-- A write leaves no execution to be followed up that was not to be before. -/
theorem count_pending_of_permits {store : TaskStore} {trail : List Deed}
    (hlive : t.isTerminal = false) (hreplaces : b.store.Replaces t next.bump store)
    (hpermits : b.Permits t next account) (handle : String) :
    (Books.pending { b with store, trail, account }).count handle ≤ b.pending.count handle := by
  obtain ⟨pre, post, hold, hnew⟩ := hreplaces.split
  have hbump : next.bump.running = next.running := rfl
  -- All that differs is what the task runs, what was started, and what is to be dropped.
  have hchange : next.running.count handle + (account.started.map Prod.fst).count handle +
      (t.dropped next).count handle ≤
        t.running.count handle + (b.account.started.map Prod.fst).count handle := by
    rw [running_of_live hlive]
    obtain ⟨hsame, hstarted⟩ | ⟨hnone, hnext, other, hother, hstarted⟩ := hpermits.execution
    · rw [hstarted]
      cases hnext : next.isTerminal with
      | false =>
          rw [running_of_live hnext, dropped_of_live hnext, hsame, List.count_nil]
          omega
      | true =>
          rw [running_of_terminal hnext, List.count_nil]
          unfold Task.dropped
          split
          · omega
          · rw [List.count_nil]
            omega
    · rw [running_of_live hnext, dropped_of_live hnext, hother, hnone, hstarted, List.map_cons,
        List.count_cons]
      simp only [Option.toList_some, Option.toList_none, List.count_nil, List.count_singleton]
      omega
  unfold Books.pending
  rw [hold, hnew, hpermits.ended]
  simp only [List.flatMap_append, List.flatMap_cons, List.count_append, hbump]
  omega

end Recorded

/-- How the books are changed by a deed that is due, unless it starts an execution. -/
structure Books.Does (b : Books) (d : Deed) (b' : Books) : Prop where
  trail : b'.trail = d :: b.trail
  due : d.Due b.trail
  fresh : ∀ handle, b'.substrate.Fresh handle → b.substrate.Fresh handle
  pending : ∀ handle, b'.pending.count handle ≤ b.pending.count handle
  known : ∀ handle ∈ d.handle?, handle ∈ b.pending
  forgotten : ∀ handle, d = .forget handle → b'.pending.count handle < b.pending.count handle
  ended : ∀ handle ∈ b'.account.ended, d.isPass = false ∧ handle ∈ b.account.ended ∨
    ∃ t, d = .store t ∧ t ∈ b'.store.tasks ∧ t.isTerminal = true ∧
      t.status.execution = some handle
  started : ∀ e ∈ b.account.started, e ∈ b'.account.started ∨ d = .cancel e.1 ∨
    ∃ t, b'.store.get e.2 = .ok t ∧ t.status.execution = some e.1
  new : ∀ handle id, d ≠ .start handle id

/-- The books after an execution was started. -/
def Books.launched (b : Books) (substrate : Substrate) (handle : String) (id : TaskId) : Books :=
  { b with
    substrate
    trail := .start handle id :: b.trail
    account.started := (handle, id) :: b.account.started }

section Order

variable {steady : Prop} {now : Nat} {b b' : Books} {d : Deed} {handle : String} {id : TaskId}
  {t next : Task} {substrate : Substrate} {request : ExecutionRequest}

namespace Books

/-- A deed that the books allow is due. -/
theorem Allows.does (hallows : b.Allows d) : b.Does d { b with trail := d :: b.trail } := by
  have hrunning {t : Task} {handle : String} (ht : t ∈ b.store.tasks)
      (hlive : t.isTerminal = false) (hexecution : t.status.execution = some handle) :
      handle ∈ b.pending := by
    refine List.mem_append_left _ (List.mem_append_left _ (List.mem_flatMap.2 ⟨t, ht, ?_⟩))
    rw [running_of_live hlive, hexecution]
    exact List.mem_singleton_self _
  have hsame (hdue : d.Due b.trail) (hknown : ∀ handle ∈ d.handle?, handle ∈ b.pending)
      (hended : ∀ handle ∈ b.account.ended, d.isPass = false)
      (hforget : ∀ handle, d ≠ .forget handle) (hnew : ∀ handle id, d ≠ .start handle id) :
      b.Does d { b with trail := d :: b.trail } :=
    { trail := rfl
      due := hdue
      fresh := fun _ => id
      pending := fun _ => le_rfl
      known := hknown
      forgotten := fun handle heq => absurd heq (hforget handle)
      ended := fun handle hmem => .inl ⟨hended handle hmem, hmem⟩
      started := fun _ => .inl
      new := hnew }
  cases hallows with
  | pass id hended =>
      have hnone (handle : String) (hmem : handle ∈ b.account.ended) : False := by
        rw [hended] at hmem
        exact nomatch hmem
      exact hsame trivial nofun (fun handle hmem => (hnone handle hmem).elim) nofun nofun
  | ask t agent hsound hget hlive hagent hexecution hthere =>
      exact hsame ⟨t, hget, hexecution⟩ nofun (fun _ _ => rfl) nofun nofun
  | poll t handle ht hlive hexecution =>
      exact hsame trivial (by rintro _ ⟨⟩; exact hrunning ht hlive hexecution) (fun _ _ => rfl)
        nofun nofun
  | cancel t handle ht hlive hexecution =>
      exact hsame trivial (by rintro _ ⟨⟩; exact hrunning ht hlive hexecution) (fun _ _ => rfl)
        nofun nofun

/-- A task that is written has the execution that it had, or the one that was started for it. -/
theorem Permits.does {store : TaskStore} {account : Account} (hget : b.store.get t.id = .ok t)
    (hlive : t.isTerminal = false) (hreplaces : b.store.Replaces t next.bump store)
    (hpermits : b.Permits t next account) :
    b.Does (.store next.bump)
      { b with store, trail := .store next.bump :: b.trail, account } where
  trail := rfl
  due := hpermits.stopped
  fresh := fun _ => id
  pending := count_pending_of_permits hlive hreplaces hpermits
  known := nofun
  forgotten := nofun
  ended := by
    intro handle hended
    rw [hpermits.ended] at hended
    obtain hdropped | hbefore := List.mem_append.1 hended
    · obtain ⟨⟨hterminal, -⟩, hexecution⟩ : (next.isTerminal = true ∧ t.status.agent.isSome) ∧
          t.status.execution = some handle := by
        unfold Task.dropped at hdropped
        split at hdropped
        · exact ⟨‹_›, Option.mem_toList.1 hdropped⟩
        · exact nomatch hdropped
      obtain ⟨hsame, -⟩ | ⟨hnone, -⟩ := hpermits.execution
      · obtain ⟨pre, post, -, hnew⟩ := hreplaces.split
        have hmem : next.bump ∈ store.tasks := by
          rw [hnew]
          exact List.mem_append_right _ List.mem_cons_self
        exact .inr ⟨next.bump, rfl, hmem, hterminal, hsame.trans hexecution⟩
      · rw [hexecution] at hnone
        exact nomatch hnone
    · exact .inl ⟨rfl, hbefore⟩
  started := by
    intro e he
    obtain ⟨-, hsame⟩ | ⟨-, -, handle, hhandle, hstarted⟩ := hpermits.execution
    · exact .inl (hsame ▸ he)
    · rw [hstarted] at he
      obtain rfl | hrest := List.mem_cons.1 he
      · exact .inr (.inr ⟨next.bump, hreplaces.found _ hget, hhandle⟩)
      · exact .inl hrest
  new := nofun

/-- What was to be followed up once more before is to be followed up no more often now. -/
theorem count_le_of_perm {l m : List String} (h : m.Perm (handle :: l)) (other : String) :
    l.count other ≤ m.count other := by
  rw [h.count_eq, List.count_cons]
  exact Nat.le_add_right _ _

/-- An execution that could not be recorded is stopped, and that is all there is to it. -/
theorem give_up_does {started : List (String × TaskId)}
    (haccount : b.account.started = (handle, id) :: started) :
    b.Does (.cancel handle)
      { b with trail := .cancel handle :: b.trail, account.started := started } := by
  have hperm : b.pending.Perm (handle :: Books.pending
      { b with trail := .cancel handle :: b.trail, account.started := started }) := by
    unfold pending
    rw [haccount]
    exact List.perm_middle.append_right _
  exact
    { trail := rfl
      due := trivial
      fresh := fun _ hfresh => hfresh
      pending := count_le_of_perm hperm
      known := by rintro _ ⟨⟩; exact hperm.mem_iff.2 List.mem_cons_self
      forgotten := nofun
      ended := fun _ hmem => .inl ⟨rfl, hmem⟩
      started := fun e he => by
        rw [haccount] at he
        obtain rfl | hrest := List.mem_cons.1 he
        · exact .inr (.inl rfl)
        · exact .inl hrest
      new := nofun }

/-- What is forgotten is to be followed up once less. -/
theorem Accounted.forget {forgets : List (Fault String)} {ended : List String} (h : b.Accounted)
    (haccount : b.account.ended = handle :: ended)
    (hfresh : ∀ other, substrate.Fresh other → b.substrate.Fresh other) :
    b.Does (.forget handle)
      { b with
        substrate, forgets, trail := .forget handle :: b.trail, account.ended := ended } := by
  have hended : handle ∈ b.account.ended := by
    rw [haccount]
    exact List.mem_cons_self
  have hperm : b.pending.Perm (handle :: Books.pending { b with
      substrate, forgets, trail := .forget handle :: b.trail, account.ended := ended }) := by
    unfold pending
    rw [haccount]
    exact List.perm_middle
  obtain ⟨t, -, hterminal, hexecution, hstored⟩ := h.ended handle hended
  exact
    { trail := rfl
      due := ⟨t, hstored, hterminal, hexecution⟩
      fresh := hfresh
      pending := count_le_of_perm hperm
      known := by rintro _ ⟨⟩; exact hperm.mem_iff.2 List.mem_cons_self
      forgotten := by
        rintro _ ⟨⟩
        rw [hperm.count_eq, List.count_cons_self]
        exact Nat.lt_succ_self _
      ended := fun other hother => .inl ⟨rfl, by
        rw [haccount]
        exact List.mem_cons_of_mem _ hother⟩
      started := fun _ => .inl
      new := nofun }

/-- A handle that is yet to be issued after an execution was dropped was yet to be issued before. -/
theorem fresh_forget {s : Substrate} {struck : Bool} {other : String}
    (h : (if struck then s else s.forget handle).Fresh other) : s.Fresh other := by
  cases struck with
  | true => exact h
  | false => exact h

/-- A move has to do with reservations alone, or it does something that is due, or it starts an
execution. -/
theorem move_cases (hsteady : steady) (h : b.Accounted) (hmove : Move steady now b b') :
    (∃ ledger reserved, b' = { b with ledger, account.reserved := reserved }) ∨
      (∃ d, b.Does d b') ∨ ∃ request substrate handle,
        b.substrate.submit request = .ok (substrate, handle) ∧
          b' = b.launched substrate handle request.task := by
  cases hmove with
  | reserve | release | drop => exact .inl ⟨_, _, rfl⟩
  | note d hallows => exact .inr (.inl ⟨d, hallows.does⟩)
  | write t next store account hget hlive hrevision hreplaces hpermits =>
      exact .inr (.inl ⟨_, (hpermits hsteady).does hget hlive hreplaces⟩)
  | start request substrate handle hsubmit =>
      exact .inr (.inr ⟨request, substrate, handle, hsubmit, rfl⟩)
  | giveUp handle id started haccount => exact .inr (.inl ⟨_, give_up_does haccount⟩)
  | forget handle ended haccount =>
      exact .inr (.inl ⟨_, h.forget haccount fun _ => fresh_forget⟩)
  | upset _ hunsteady => exact absurd hsteady hunsteady

/-- What is accounted for has nothing to do with what is reserved. -/
theorem Accounted.rebook (h : b.Accounted) (ledger : Ledger)
    (reserved : List (String × ResourceSet)) :
    Accounted { b with ledger, account.reserved := reserved } :=
  ⟨h.ended, h.owned, h.due⟩

/-- A deed that is due leaves every execution accounted for. -/
theorem Accounted.does (h : b.Accounted) (hsteady : steady) (hmove : Move steady now b b')
    (hdoes : b.Does d b') : b'.Accounted := by
  refine ⟨?_, ?_, ?_⟩
  · intro handle hmem
    rw [hdoes.trail]
    obtain ⟨hsamePass, hended⟩ | ⟨t, rfl, ht, hterminal, hexecution⟩ := hdoes.ended handle hmem
    · obtain ⟨t, ht, hterminal, hexecution, hstored⟩ := h.ended handle hended
      exact ⟨t, over_move hmove ht hterminal, hterminal, hexecution,
        mem_this_pass_cons.2 ⟨hsamePass, .inr hstored⟩⟩
    · exact ⟨t, ht, hterminal, hexecution, mem_this_pass_cons.2 ⟨rfl, .inl rfl⟩⟩
  · intro handle id later earlier htrail
    rw [hdoes.trail] at htrail
    cases later with
    | nil => exact absurd (List.cons.inj htrail).1 (hdoes.new handle id)
    | cons latest later =>
        obtain ⟨rfl, hbefore⟩ := List.cons.inj htrail
        obtain ⟨t, hget, hexecution⟩ | hcancel | hstarted := h.owned handle id later earlier hbefore
        · exact .inl (records_move hsteady hmove id t handle hget hexecution)
        · exact .inr (.inl (List.mem_cons_of_mem _ hcancel))
        · obtain hstill | rfl | hrecorded := hdoes.started _ hstarted
          · exact .inr (.inr hstill)
          · exact .inr (.inl List.mem_cons_self)
          · exact .inl hrecorded
  · intro other earlier hsuffix
    rw [hdoes.trail, List.suffix_cons_iff] at hsuffix
    obtain heq | hearlier := hsuffix
    · cases heq
      exact hdoes.due
    · exact h.due other earlier hearlier

/-- An execution that is started is the pass's own. -/
theorem Accounted.launched (h : b.Accounted) (substrate : Substrate) (handle : String)
    (id : TaskId) : (b.launched substrate handle id).Accounted := by
  refine ⟨?_, ?_, ?_⟩
  · intro other hother
    obtain ⟨t, ht, hterminal, hexecution, hstored⟩ := h.ended other hother
    exact ⟨t, ht, hterminal, hexecution, mem_this_pass_cons.2 ⟨rfl, .inr hstored⟩⟩
  · intro other id later earlier htrail
    cases later with
    | nil =>
        cases htrail
        exact .inr (.inr List.mem_cons_self)
    | cons latest later =>
        obtain ⟨rfl, hbefore⟩ := List.cons.inj htrail
        obtain hrecorded | hcancel | hstarted := h.owned other id later earlier hbefore
        · exact .inl hrecorded
        · exact .inr (.inl (List.mem_cons_of_mem _ hcancel))
        · exact .inr (.inr (List.mem_cons_of_mem _ hstarted))
  · intro d earlier hsuffix
    obtain heq | hearlier := List.suffix_cons_iff.1 hsuffix
    · cases heq
      trivial
    · exact h.due d earlier hearlier

/-- Each move leaves every execution accounted for. -/
theorem accounted_move (hsteady : steady) (h : b.Accounted) (hmove : Move steady now b b') :
    b'.Accounted := by
  obtain ⟨ledger, reserved, rfl⟩ | ⟨d, hdoes⟩ | ⟨request, substrate, handle, -, rfl⟩ :=
    move_cases hsteady h hmove
  · exact h.rebook ledger reserved
  · exact h.does hsteady hmove hdoes
  · exact h.launched substrate handle request.task

/-- Every execution stays accounted for through all moves. -/
theorem accounted_moves (hsteady : steady) (h : b.Accounted)
    (hmoves : ReflTransGen (Move steady now) b b') : b'.Accounted := by
  induction hmoves with
  | refl => exact h
  | tail _ hmove ih => exact accounted_move hsteady ih hmove

/-- Where the handles stand has nothing to do with what is reserved. -/
theorem Orderly.rebook (h : b.Orderly) (ledger : Ledger) (reserved : List (String × ResourceSet)) :
    Orderly { b with ledger, account.reserved := reserved } :=
  ⟨h.nodup, h.issued, h.unforgotten, h.known, h.alone⟩

/-- A deed that is due leaves every handle in its place. -/
theorem Orderly.does (h : b.Orderly) (hdoes : b.Does d b') : b'.Orderly := by
  -- A handle may go from one list to another, so it is counted over all of them.
  have honce (handle : String) : b.pending.count handle ≤ 1 :=
    List.nodup_iff_count_le_one.1 h.nodup handle
  have hpending (handle : String) (hmem : handle ∈ b'.pending) : handle ∈ b.pending := by
    have hcount := hdoes.pending handle
    have hpos := List.count_pos_iff.2 hmem
    exact List.count_pos_iff.1 (by omega)
  refine ⟨?_, ?_, ?_, ?_, ?_⟩
  · rw [List.nodup_iff_count_le_one]
    exact fun handle => Nat.le_trans (hdoes.pending handle) (honce handle)
  · intro handle hmem hfresh
    exact h.issued handle (hpending handle hmem) (hdoes.fresh handle hfresh)
  · intro handle hmem hforget
    rw [hdoes.trail] at hforget
    obtain hlatest | hearlier := List.mem_cons.1 hforget
    · have hless := hdoes.forgotten handle hlatest.symm
      have hpos := List.count_pos_iff.2 hmem
      have hbefore := honce handle
      omega
    · exact h.unforgotten handle (hpending handle hmem) hearlier
  · intro other hother handle hhandle hfresh
    rw [hdoes.trail] at hother
    have hbefore := hdoes.fresh handle hfresh
    obtain rfl | hearlier := List.mem_cons.1 hother
    · exact h.issued handle (hdoes.known handle hhandle) hbefore
    · exact h.known other hearlier handle hhandle hbefore
  · intro other earlier hsuffix handle hhandle
    rw [hdoes.trail, List.suffix_cons_iff] at hsuffix
    obtain heq | hearlier := hsuffix
    · cases heq
      exact h.unforgotten handle (hdoes.known handle hhandle)
    · exact h.alone other earlier hearlier handle hhandle

/-- What has not been issued is neither to be followed up nor mentioned in the trail, so an execution
that is started has a handle of its own. -/
theorem Orderly.launched (h : b.Orderly)
    (hsubmit : b.substrate.submit request = .ok (substrate, handle)) :
    (b.launched substrate handle request.task).Orderly := by
  obtain ⟨hfresh, hused, hmono, -⟩ := Substrate.submit_spec hsubmit
  have hnew : handle ∉ b.pending := fun hmem => h.issued handle hmem hfresh
  have hunforgotten : .forget handle ∉ b.trail := fun hmem => h.known _ hmem handle rfl hfresh
  have hperm : (b.launched substrate handle request.task).pending.Perm (handle :: b.pending) :=
    List.perm_middle.append_right _
  refine ⟨hperm.nodup_iff.2 (List.nodup_cons.2 ⟨hnew, h.nodup⟩), ?_, ?_, ?_, ?_⟩
  · intro other hother hlater
    obtain rfl | hbefore := List.mem_cons.1 (hperm.mem_iff.1 hother)
    · exact hused hlater
    · exact h.issued other hbefore (hmono other hlater)
  · intro other hother hforget
    obtain hlatest | hearlier := List.mem_cons.1 hforget
    · exact nomatch hlatest
    obtain rfl | hbefore := List.mem_cons.1 (hperm.mem_iff.1 hother)
    · exact hunforgotten hearlier
    · exact h.unforgotten other hbefore hearlier
  · intro d hd other hother hlater
    obtain rfl | hearlier := List.mem_cons.1 hd
    · cases hother
      exact hused hlater
    · exact h.known d hearlier other hother (hmono other hlater)
  · intro d earlier hsuffix other hother
    obtain heq | hearlier := List.suffix_cons_iff.1 hsuffix
    · cases heq
      cases hother
      exact hunforgotten
    · exact h.alone d earlier hearlier other hother

/-- Each move leaves every handle in its place. -/
theorem orderly_move (hsteady : steady) (haccounted : b.Accounted) (h : b.Orderly)
    (hmove : Move steady now b b') : b'.Orderly := by
  obtain ⟨ledger, reserved, rfl⟩ | ⟨d, hdoes⟩ | ⟨request, substrate, handle, hsubmit, rfl⟩ :=
    move_cases hsteady haccounted hmove
  · exact h.rebook ledger reserved
  · exact h.does hdoes
  · exact h.launched hsubmit

/-- No handle comes to stand for two executions through any moves. -/
theorem orderly_moves (hsteady : steady) (haccounted : b.Accounted) (h : b.Orderly)
    (hmoves : ReflTransGen (Move steady now) b b') : b'.Orderly := by
  induction hmoves with
  | refl => exact h
  | tail hmoves hmove ih =>
      exact orderly_move hsteady (accounted_moves hsteady haccounted hmoves) ih hmove

end Books

end Order

/-- A substrate before and after a time in which it was not started anew. -/
structure Substrate.GoesOn (s s' : Substrate) : Prop where
  stem : s'.launch.stem = s.launch.stem
  issued : s'.issued = s.issued
  kept : ∀ handle, (s'.executions.find? handle).isSome = (s.executions.find? handle).isSome

/-- A substrate that is left alone goes on. -/
theorem Substrate.goes_on_of_eq {s s' : Substrate} (h : s' = s) : s.GoesOn s' := by
  subst h
  exact ⟨rfl, rfl, fun _ => rfl⟩

namespace Fleet

variable {lasting : Prop} {start f f' : Fleet}

/-- One step of a run in which no fault says what is not so. Between the operations everything but
the tasks may change (`turn`), what the executions report included. In a run that is `lasting` the
substrate goes on all the time, and the ledger with it; in another one the daemon may be restarted:
the substrate may be a new one, and the reservations that the tasks claim are taken up again
(`restore`). -/
inductive Round (lasting : Prop) (f : Fleet) : Fleet → Prop where
  | create (t stored : Task) (store : TaskStore) (key : String)
      (hinitial : t.status = .initial) (hnew : f.store.get t.id = .error (.notFound key))
      (hinsert : f.store.insert t = .ok (store, stored)) : Round lasting f { f with store }
  | pass (id : TaskId) : Round lasting f ((reconcile id).run f).2
  | cancel (id : TaskId) : Round lasting f ((requestCancel id).run f).2
  | resync (pageSize : Nat) : Round lasting f ((resync pageSize).run f).2
  | swap (observed : List Observation) :
      Round lasting f { f with ledger := (f.ledger.resync observed).1 }
  | turn (f' : Fleet) (hproper : Proper True f') (hstore : f.store.SameTasks f'.store)
      (htrail : f'.trail = f.trail) (hledger : lasting → f'.ledger = f.ledger)
      (hsubstrate : lasting → f.substrate.GoesOn f'.substrate) : Round lasting f f'
  | restore (h : Host) (hhost : h.fleet = f) (hrestart : ¬ lasting) :
      Round lasting f (Daemon.restoreReservations.run.run h).2.fleet

/-- A round of a run that is lasting is a step of a steady one. -/
theorem Round.step (h : Round True f f') : Step True f f' := by
  cases h with
  | create t stored store key hinitial hnew hinsert =>
      exact .create t stored store key hinitial hnew hinsert
  | pass id => exact .pass id
  | cancel id => exact .cancel id
  | resync pageSize => exact .resync pageSize
  | swap observed => exact .swap observed
  | turn _ hproper hstore htrail hledger => exact .turn f' hproper hstore fun _ => hledger trivial
  | restore host hhost hrestart => exact absurd trivial hrestart

/-- From one fleet to another without a deed. -/
structure Rests (lasting : Prop) (f f' : Fleet) : Prop where
  proper : Proper True f'
  records : f.store.Records f'.store
  trail : f'.trail = f.trail
  store : lasting → f.store.Adds f'.store
  substrate : lasting → f.substrate.GoesOn f'.substrate

/-- What adds tasks that nothing has happened to, and leaves the deeds alone, rests. -/
theorem rests_of_adds (hproper : Proper True f') (hstore : f.store.Adds f'.store)
    (htrail : f'.trail = f.trail) (hsubstrate : lasting → f.substrate.GoesOn f'.substrate) :
    Rests lasting f f' where
  proper := hproper
  records := TaskStore.records_of_found hstore.found
  trail := htrail
  store := fun _ => hstore
  substrate := hsubstrate

/-- Every round makes moves, or does nothing. -/
theorem round_spec (hproper : Proper True f) (h : Round lasting f f') :
    Turns True f f' ∨ Rests lasting f f' := by
  cases h with
  | create t stored store key hinitial hnew hinsert =>
      obtain ⟨hsound, hadds⟩ := TaskStore.insert_spec hproper.sound hinsert hnew hinitial
      exact .inr (rests_of_adds { hproper with sound := hsound } hadds rfl
        fun _ => Substrate.goes_on_of_eq rfl)
  | pass id => exact .inl (pass_spec id hproper)
  | cancel id =>
      have hleads : Leads True f {} ((requestCancel id).run f).2 {} :=
        request_cancel_spec id hproper
      exact .inl hleads.turns
  | resync pageSize =>
      have hrefreshes : Refreshes True f ((resync pageSize).run f).2 :=
        resync_spec pageSize hproper
      exact .inr (rests_of_adds hrefreshes.proper hrefreshes.store.adds
        (congrArg Books.trail hrefreshes.books)
        fun _ => Substrate.goes_on_of_eq (congrArg Books.substrate hrefreshes.books))
  | swap observed =>
      exact .inr (rests_of_adds { hproper with } (TaskStore.same_tasks_refl _).adds rfl
        fun _ => Substrate.goes_on_of_eq rfl)
  | turn _ hproper hstore htrail hledger hsubstrate =>
      exact .inr (rests_of_adds hproper hstore.adds htrail hsubstrate)
  | restore host hhost hrestart =>
      subst hhost
      have hrestores : Daemon.Restores host (Daemon.restoreReservations.run.run host).2 :=
        Daemon.restore_spec { hproper with faults := nofun, slip := nofun, rival := nofun }
      have htrail : (Daemon.restoreReservations.run.run host).2.fleet.trail = host.fleet.trail := by
        obtain ⟨store, ledger, signals, hfleet⟩ := hrestores.same
        rw [hfleet]
      exact .inr ⟨hrestores.keeps hproper, hrestores.records, htrail,
        fun hlasting => absurd hlasting hrestart, fun hlasting => absurd hlasting hrestart⟩

/-- Every round leaves a proper fleet proper. -/
theorem proper_round (hproper : Proper True f) (hround : Round lasting f f') : Proper True f' := by
  obtain hturns | hrests := round_spec hproper hround
  · exact hturns.proper
  · exact hrests.proper

/-- What is recorded stays recorded through every round. -/
theorem records_round (hproper : Proper True f) (hround : Round lasting f f') :
    f.store.Records f'.store := by
  obtain ⟨-, -, l, -, hmoves⟩ | hrests := round_spec hproper hround
  · exact records_moves trivial hmoves
  · exact hrests.records

/-- Every execution stays accounted for while nothing is done. -/
theorem accounted_rests (h : f.books.Accounted) (hrests : Rests lasting f f') :
    f'.books.Accounted := by
  have htrail : f'.books.trail = f.books.trail := hrests.trail
  refine ⟨nofun, ?_, ?_⟩
  · rw [htrail]
    intro handle id later earlier hsplit
    obtain ⟨t, hget, hexecution⟩ | hcancel | hstarted := h.owned handle id later earlier hsplit
    · exact .inl (hrests.records id t handle hget hexecution)
    · exact .inr (.inl hcancel)
    · exact nomatch hstarted
  · rw [htrail]
    exact h.due

/-- Every execution stays accounted for through every round. -/
theorem accounted_round (hproper : Proper True f) (h : f.books.Accounted)
    (hround : Round lasting f f') : f'.books.Accounted := by
  obtain ⟨-, -, l, -, hmoves⟩ | hrests := round_spec hproper hround
  · exact Books.accounted_moves trivial (h.rebook l []) hmoves
  · exact accounted_rests h hrests

/-- Handles stay apart while nothing is done and the substrate goes on. -/
theorem orderly_rests (h : f.books.Orderly) (hstore : f.store.Adds f'.store)
    (htrail : f'.trail = f.trail) (hsubstrate : f.substrate.GoesOn f'.substrate) :
    f'.books.Orderly := by
  have hpending : f'.books.pending = f.books.pending := by
    unfold Books.pending
    -- A task that was just created runs nothing.
    refine congrArg (· ++ [] ++ []) (hstore.flatMap_eq fun t hinitial => ?_)
    unfold Task.running
    rw [hinitial]
    exact ite_self []
  have hfresh {handle : String} (hlater : f'.substrate.Fresh handle) : f.substrate.Fresh handle :=
    Substrate.fresh_mono hsubstrate.stem (Nat.le_of_eq hsubstrate.issued.symm) hlater
  have htrail' : f'.books.trail = f.books.trail := htrail
  refine ⟨?_, ?_, ?_, ?_, ?_⟩
  · rw [hpending]
    exact h.nodup
  · rw [hpending]
    exact fun handle hmem hlater => h.issued handle hmem (hfresh hlater)
  · rw [hpending, htrail']
    exact h.unforgotten
  · rw [htrail']
    exact fun d hd handle hhandle hlater => h.known d hd handle hhandle (hfresh hlater)
  · rw [htrail']
    exact h.alone

/-- Handles stay apart through every round of a run that is lasting. -/
theorem orderly_round (hlasting : lasting) (hproper : Proper True f)
    (haccounted : f.books.Accounted) (h : f.books.Orderly) (hround : Round lasting f f') :
    f'.books.Orderly := by
  obtain ⟨-, -, l, -, hmoves⟩ | hrests := round_spec hproper hround
  · exact Books.orderly_moves trivial (haccounted.rebook l []) (h.rebook l []) hmoves
  · exact orderly_rests h (hrests.store hlasting) hrests.trail (hrests.substrate hlasting)

/-- The executions of the live tasks that a fleet starts with are different ones, and the substrate
will not issue their handles again. -/
structure Distinct (f : Fleet) : Prop where
  nodup : (f.store.tasks.flatMap Task.running).Nodup
  issued : ∀ handle ∈ f.store.tasks.flatMap Task.running, ¬ f.substrate.Fresh handle

/-- In every state of a run, restarts included, every execution is accounted for. -/
theorem accounted_of_run (hproper : Proper True start) (htrail : start.trail = [])
    (hrun : ReflTransGen (Round lasting) start f) : Proper True f ∧ f.books.Accounted := by
  induction hrun with
  | refl =>
      have hnothing : start.books.trail = [] := htrail
      refine ⟨hproper, nofun, ?_, ?_⟩
      · rw [hnothing]
        exact fun _ _ later _ hsplit => nomatch (List.append_eq_nil_iff.1 hsplit.symm).2
      · rw [hnothing]
        exact fun _ _ hsuffix => nomatch List.eq_nil_of_suffix_nil hsuffix
  | tail _ hround ih =>
      obtain ⟨hproper, haccounted⟩ := ih
      exact ⟨proper_round hproper hround, accounted_round hproper haccounted hround⟩

/-- In every state of a run that is lasting, handles are apart if they were at the start. -/
theorem orderly_of_run (hlasting : lasting) (hproper : Proper True start)
    (htrail : start.trail = []) (hdistinct : Distinct start)
    (hrun : ReflTransGen (Round lasting) start f) : f.books.Orderly := by
  induction hrun with
  | refl =>
      have hpending : start.books.pending = start.store.tasks.flatMap Task.running := by
        simp [Books.pending, books]
      have hnothing : start.books.trail = [] := htrail
      refine ⟨?_, ?_, ?_, ?_, ?_⟩
      · rw [hpending]
        exact hdistinct.nodup
      · rw [hpending]
        exact hdistinct.issued
      · rw [hnothing]
        exact fun _ _ => List.not_mem_nil
      · rw [hnothing]
        exact fun _ hd => nomatch hd
      · rw [hnothing]
        exact fun _ _ hsuffix => nomatch List.eq_nil_of_suffix_nil hsuffix
  | tail hrun hround ih =>
      obtain ⟨hproper', haccounted⟩ := accounted_of_run hproper htrail hrun
      exact orderly_round hlasting hproper' haccounted ih hround

/-- In every state of a run, each execution that was started is recorded by its task or has been
stopped since; what is recorded stays recorded in all that follows; and whatever was done was due:
executions were asked for on behalf of tasks without one, stopped before their tasks were cut short,
and forgotten after the end of their tasks was stored, by the same pass. If moreover the executions
of the tasks at the start are different ones, and the substrate goes on numbering where it was, an
execution that was forgotten is left alone from then on. -/
theorem executions_of_run (hproper : Proper True start) (htrail : start.trail = [])
    (hrun : ReflTransGen (Round lasting) start f) :
    (∀ handle id later earlier, f.trail = later ++ .start handle id :: earlier →
      (∃ t, f.store.get id = .ok t ∧ t.status.execution = some handle) ∨
        .cancel handle ∈ later) ∧
      (∀ f', ReflTransGen (Round lasting) f f' → f.store.Records f'.store) ∧
      (∀ d earlier, d :: earlier <:+ f.trail → d.Due earlier) ∧
      (lasting → Distinct start → ∀ d earlier, d :: earlier <:+ f.trail →
        ∀ handle ∈ d.handle?, .forget handle ∉ earlier) := by
  obtain ⟨hproper', haccounted⟩ := accounted_of_run hproper htrail hrun
  refine ⟨fun handle id later earlier hsplit => ?_, fun f' hlater => ?_, haccounted.due,
    fun hlasting hdistinct => (orderly_of_run hlasting hproper htrail hdistinct hrun).alone⟩
  · obtain hrecorded | hcancel | hstarted := haccounted.owned handle id later earlier hsplit
    · exact .inl hrecorded
    · exact .inr hcancel
    -- Between two passes nothing is left for a pass to answer for.
    · exact nomatch hstarted
  · induction hlater with
    | refl => exact TaskStore.records_of_found fun _ _ hget => hget
    | tail hlater hround ih =>
        have hbefore := accounted_of_run hproper htrail (hrun.trans hlater)
        exact ih.trans (records_round hbefore.1 hround)

/-- The one execution was recorded and stopped, and then forgotten as the last thing of all. -/
theorem executions_of_run_cancelled :
    ReflTransGen (Round True) (fresh 1000 runsOn) cancelled ∧
      (∃ t, cancelled.store.get halfProcessor.id = .ok t ∧ t.status.execution = some "exec-1") ∧
      (∀ handle id later earlier, cancelled.trail = later ++ .start handle id :: earlier →
        (∃ t, cancelled.store.get id = .ok t ∧ t.status.execution = some handle) ∨
          .cancel handle ∈ later) ∧
      ∃ earlier, cancelled.trail = .forget "exec-1" :: earlier ∧ .forget "exec-1" ∉ earlier ∧
        ∃ t, .store t ∈ thisPass earlier ∧ t.isTerminal = true ∧
          t.status.execution = some "exec-1" := by
  have hproper : Proper True (fresh 1000 runsOn) := proper_fresh (by decide) in_range_runs_on
  have hdistinct : Distinct (fresh 1000 runsOn) := ⟨.nil, nofun⟩
  have hrun : ReflTransGen (Round True) (fresh 1000 runsOn) cancelled := by
    refine .head (.swap [oneProcessor]) ?_
    refine .head (.create halfProcessor halfProcessor.bump _ _ rfl rfl rfl) ?_
    refine .head (.pass halfProcessor.id) ?_
    exact .head (.cancel halfProcessor.id) (.single (.pass halfProcessor.id))
  obtain ⟨howned, -, hdue, halone⟩ := executions_of_run hproper rfl hrun
  have hrecorded : (cancelled.store.get halfProcessor.id).toOption.map
      (fun t => t.status.execution) = some (some "exec-1") := by decide +kernel
  have hlatest : cancelled.trail.head?.any (·.forgets "exec-1") = true := by decide +kernel
  obtain ⟨d, hhead, hforgets⟩ := (Option.any_eq_true _ _).1 hlatest
  obtain rfl := Deed.forgets_iff.1 hforgets
  obtain ⟨earlier, htrail⟩ := List.head?_eq_some_iff.1 hhead
  have hsuffix : .forget "exec-1" :: earlier <:+ cancelled.trail := ⟨[], htrail.symm⟩
  exact ⟨hrun, TaskStore.get_of_map hrecorded, howned, earlier, htrail,
    halone trivial hdistinct _ earlier hsuffix "exec-1" rfl, hdue _ earlier hsuffix⟩

/-- Another task like the first. -/
def otherHalf : Task :=
  { halfProcessor with id := ⟨"n", "u"⟩ }

/-- A fleet with an agent and both tasks, and no pass made yet. -/
def bothSubmitted : Fleet :=
  { submitted with
    store := .memory ((Dict.empty.insert halfProcessor.id halfProcessor.bump).insert otherHalf.id
      otherHalf.bump) }

/-- The fleet after a pass over the first task, and a restart. -/
def restarted : Fleet :=
  { ((reconcile halfProcessor.id).run bothSubmitted).2 with substrate := { launch := runsOn } }

/-- The second task has been handed off, the first one cancelled, and the second looked at. -/
def mistaken : Fleet :=
  ((reconcile otherHalf.id).run ((reconcile halfProcessor.id).run
    ((requestCancel halfProcessor.id).run ((reconcile otherHalf.id).run restarted).2).2).2).2

/-- The handle that the first task has recorded is issued again after the restart. The first task
ends and it is forgotten, and the pass over the second task polls it after that. -/
theorem forgotten_polled :
    ReflTransGen (Round False) (fresh 1000 runsOn) mistaken ∧
      ∃ earlier, .poll "exec-1" :: earlier <:+ mistaken.trail ∧ .forget "exec-1" ∈ earlier := by
  have hproper : Proper True (fresh 1000 runsOn) := proper_fresh (by decide) in_range_runs_on
  have hboth : Round False submitted bothSubmitted :=
    .create otherHalf otherHalf.bump _ _ rfl rfl rfl
  have hpass : Round False bothSubmitted ((reconcile halfProcessor.id).run bothSubmitted).2 :=
    .pass halfProcessor.id
  have hpassed : Proper True ((reconcile halfProcessor.id).run bothSubmitted).2 :=
    proper_round (proper_round proper_submitted hboth) hpass
  have hrestarted : Proper True restarted :=
    { hpassed with
      reports := fun _ _ hfind => nomatch hfind
      starts := fun _ _ hstart => in_range_runs_on hstart }
  have hrun : ReflTransGen (Round False) (fresh 1000 runsOn) mistaken := by
    refine .head (.swap [oneProcessor]) ?_
    refine .head (.create halfProcessor halfProcessor.bump _ _ rfl rfl rfl) (.head hboth ?_)
    refine .head hpass ?_
    refine .head (.turn restarted hrestarted (TaskStore.same_tasks_refl _) rfl nofun nofun) ?_
    refine .head (.pass otherHalf.id) (.head (.cancel halfProcessor.id) ?_)
    exact .head (.pass halfProcessor.id) (.single (.pass otherHalf.id))
  have hpolled : (mistaken.trail.drop 1).head?.any (·.polls "exec-1") = true := by decide +kernel
  have hforgotten : (mistaken.trail.drop 1).tail.any (·.forgets "exec-1") = true := by
    decide +kernel
  obtain ⟨d, hhead, hpolls⟩ := (Option.any_eq_true _ _).1 hpolled
  obtain rfl := Deed.polls_iff.1 hpolls
  obtain ⟨earlier, hearlier⟩ := List.head?_eq_some_iff.1 hhead
  rw [hearlier] at hforgotten
  obtain ⟨d, hd, hforgets⟩ := List.any_eq_true.1 hforgotten
  obtain rfl := Deed.forgets_iff.1 hforgets
  exact ⟨hrun, earlier, hearlier ▸ List.drop_suffix 1 mistaken.trail, hd⟩

end Fleet

end TaskFleet

import Mathlib.Logic.Relation
import Mathlib.Order.WellFounded
import Marginalia.Proofs.Attempts
import Marginalia.Source

/-
  This file shows that sources can be read by several workers
  at once. A pool holds one job for each source. Its workers
  start and finish jobs in any order, while the one who asked
  for the results takes them in the order of the sources. The
  outcome is that of reading one source after the other.

  Key definitions include:
    * `Pool`
    * `Pool.Step`
    * `Pool.Reached`
    * `Pool.Settled`
    * `Pool.Sound`
    * `Source.ParsesTo`

  Main results:
    * `Pool.Step.sound`
    * `Pool.Sound.settled_or_exists_step`
    * `Pool.Step.weight_lt`
    * `Pool.Sound.exists_settled`
    * `Source.parsesTo_iff_parseAll`
-/

namespace Marginalia

------------------------------------------------------------
-- Pools
------------------------------------------------------------

/- What has become of a job. -/
inductive Slot (ε β : Type) where
  | waiting
  | running
  | finished (result : Except ε β)
  | cancelled

namespace Slot

variable {ε β : Type}

/- A job that a worker is busy with. -/
def isRunning : Slot ε β → Bool
  | .running => true
  | _ => false

/- A job that no worker will touch any more. -/
def isOver : Slot ε β → Bool
  | .finished _ => true
  | .cancelled => true
  | _ => false

end Slot

/-
  A pool of jobs: what has become of each of them, the results
  that were taken so far, and the outcome, once there is one.
-/
structure Pool (ε β : Type) where
  slots : List (Slot ε β)
  taken : List β := []
  outcome : Option (Except ε (List β)) := none

namespace Pool

variable {α β ε : Type}

/- A pool in which all jobs wait. -/
def start
    (ε β : Type)
    (jobs : List α) : Pool ε β :=
  { slots := jobs.map fun _ => .waiting }

/- The number of workers that are busy. -/
def busy
    (pool : Pool ε β) : Nat :=
  pool.slots.countP Slot.isRunning

/- The job whose result is to be taken next. -/
def next?
    (pool : Pool ε β) : Option (Slot ε β) :=
  pool.slots[pool.taken.length]?

/- The pool after something has become of a job. -/
def assign
    (pool : Pool ε β)
    (place : Nat)
    (slot : Slot ε β) : Pool ε β :=
  { pool with slots := pool.slots.set place slot }

/-
  A pool with an outcome and without jobs to come. Only then
  is the outcome handed over.
-/
structure Settled
    (pool : Pool ε β) : Prop where
  outcome : pool.outcome.isSome = true
  isOver : ∀ slot ∈ pool.slots, slot.isOver = true

/-
  What can happen next in a pool of some workers: a waiting
  job is started, if a worker is free; a running job is
  finished; the next result is taken, if its job is finished;
  or the outcome is settled, by the fault of the next job or
  because all results are taken. Jobs that still wait are then
  cancelled one by one, unless a worker starts them first.
-/
inductive Step
    (work : α → Except ε β)
    (workers : Nat)
    (jobs : List α) : Pool ε β → Pool ε β → Prop where
  | starts
      {pool : Pool ε β}
      (place : Nat)
      (hWaiting : pool.slots[place]? = some .waiting)
      (hFree : pool.busy < workers) :
      Step work workers jobs pool (pool.assign place .running)
  | finishes
      {pool : Pool ε β}
      (place : Nat)
      (job : α)
      (hRunning : pool.slots[place]? = some .running)
      (hJob : jobs[place]? = some job) :
      Step work workers jobs pool
        (pool.assign place (.finished (work job)))
  | takes
      {pool : Pool ε β}
      (value : β)
      (hOpen : pool.outcome = none)
      (hNext : pool.next? = some (.finished (.ok value))) :
      Step work workers jobs pool
        { pool with taken := pool.taken ++ [value] }
  | fails
      {pool : Pool ε β}
      (fault : ε)
      (hOpen : pool.outcome = none)
      (hNext : pool.next? = some (.finished (.error fault))) :
      Step work workers jobs pool
        { pool with outcome := some (.error fault) }
  | completes
      {pool : Pool ε β}
      (hOpen : pool.outcome = none)
      (hNext : pool.next? = none) :
      Step work workers jobs pool
        { pool with outcome := some (.ok pool.taken) }
  | cancels
      {pool : Pool ε β}
      (place : Nat)
      (hOutcome : pool.outcome.isSome = true)
      (hWaiting : pool.slots[place]? = some .waiting) :
      Step work workers jobs pool (pool.assign place .cancelled)

/- A pool that some run of the jobs leads to. -/
def Reached
    (work : α → Except ε β)
    (workers : Nat)
    (jobs : List α)
    (pool : Pool ε β) : Prop :=
  Relation.ReflTransGen (Step work workers jobs)
    (start ε β jobs) pool

------------------------------------------------------------
-- What Every Run Preserves
------------------------------------------------------------

/-
  What holds of a pool at any time: it has a slot for each
  job, what is finished is the result of that job, the results
  taken are those of the first jobs, nothing is cancelled
  before there is an outcome, and an outcome is that of the
  jobs done one after the other.
-/
structure Sound
    (work : α → Except ε β)
    (jobs : List α)
    (pool : Pool ε β) : Prop where
  length : pool.slots.length = jobs.length
  finished :
    ∀ (place : Nat) (result : Except ε β),
      pool.slots[place]? = some (.finished result) →
        ∃ job, jobs[place]? = some job ∧ work job = result
  taken :
    (jobs.take pool.taken.length).map work = pool.taken.map .ok
  kept :
    pool.outcome = none →
      ∀ place : Nat, pool.slots[place]? ≠ some .cancelled
  outcome :
    ∀ outcome, pool.outcome = some outcome →
      outcome = jobs.mapM work

variable {work : α → Except ε β}
variable {workers : Nat}
variable {jobs : List α}
variable {pool next : Pool ε β}

/- A pool in which all jobs wait is sound. -/
theorem sound_start
    (work : α → Except ε β)
    (jobs : List α) :
    Sound work jobs (start ε β jobs) where
  length := List.length_map _
  finished := by
    intro place result hFinished
    rw [start, List.getElem?_map] at hFinished
    cases hJob : jobs[place]? <;> simp [hJob] at hFinished
  taken := by simp [start]
  kept := by
    intro _ place hCancelled
    rw [start, List.getElem?_map] at hCancelled
    cases hJob : jobs[place]? <;> simp [hJob] at hCancelled
  outcome := by
    intro outcome hOutcome
    cases hOutcome

/-
  A sound pool stays sound when something becomes of a job, if
  what is finished there is the result of that job and nothing
  is cancelled before its time.
-/
theorem Sound.assign
    (hSound : Sound work jobs pool)
    {place : Nat}
    {slot : Slot ε β}
    (hFinished :
      ∀ result, slot = .finished result →
        ∃ job, jobs[place]? = some job ∧ work job = result)
    (hKept : pool.outcome = none → slot ≠ .cancelled) :
    Sound work jobs (pool.assign place slot) where
  length := by
    rw [Pool.assign, List.length_set]
    exact hSound.length
  finished := by
    intro other result hOther
    rw [Pool.assign, List.getElem?_set] at hOther
    split at hOther
    · rename_i hPlace
      subst hPlace
      split at hOther
      · exact hFinished result (Option.some.inj hOther)
      · cases hOther
    · exact hSound.finished other result hOther
  taken := hSound.taken
  kept := by
    intro hOpen other hOther
    rw [Pool.assign, List.getElem?_set] at hOther
    split at hOther
    · split at hOther
      · exact hKept hOpen (Option.some.inj hOther)
      · cases hOther
    · exact hSound.kept hOpen other hOther
  outcome := hSound.outcome

/- The result that is taken next is that of the next job. -/
theorem Sound.job_of_next?
    (hSound : Sound work jobs pool)
    {result : Except ε β}
    (hNext : pool.next? = some (.finished result)) :
    ∃ job,
      jobs[pool.taken.length]? = some job ∧ work job = result :=
  hSound.finished pool.taken.length result hNext

/- Every step keeps a pool sound. -/
theorem Step.sound
    (hStep : Step work workers jobs pool next)
    (hSound : Sound work jobs pool) :
    Sound work jobs next := by
  cases hStep with
  | starts place hWaiting hFree =>
      apply hSound.assign
      · rintro result ⟨⟩
      · rintro _ ⟨⟩
  | finishes place job hRunning hJob =>
      apply hSound.assign
      · rintro result ⟨⟩
        exact ⟨job, hJob, rfl⟩
      · rintro _ ⟨⟩
  | takes value hOpen hNext =>
      rcases hSound.job_of_next? hNext with ⟨job, hJob, hWork⟩
      refine ⟨hSound.length, hSound.finished, ?_, hSound.kept,
        hSound.outcome⟩
      rw [List.length_append, List.length_singleton,
        List.take_add_one, hJob, List.map_append, hSound.taken,
        List.map_append]
      simp [hWork]
  | fails fault hOpen hNext =>
      rcases hSound.job_of_next? hNext with ⟨job, hJob, hWork⟩
      refine ⟨hSound.length, hSound.finished, hSound.taken, ?_, ?_⟩
      · rintro ⟨⟩
      · rintro outcome ⟨⟩
        symm
        rw [Attempts.mapM_eq_error_iff]
        -- All jobs before this one have given the results taken.
        refine ⟨jobs.take pool.taken.length, job,
          jobs.drop (pool.taken.length + 1), ?_, ?_, hWork⟩
        · rcases List.getElem?_eq_some_iff.mp hJob with ⟨hLess, rfl⟩
          rw [← List.drop_eq_getElem_cons hLess, List.take_append_drop]
        · intro earlier hEarlier
          have hMember := List.mem_map_of_mem (f := work) hEarlier
          rw [hSound.taken] at hMember
          rcases List.mem_map.mp hMember with ⟨result, _, hResult⟩
          exact ⟨result, hResult.symm⟩
  | completes hOpen hNext =>
      refine ⟨hSound.length, hSound.finished, hSound.taken, ?_, ?_⟩
      · rintro ⟨⟩
      · rintro outcome ⟨⟩
        symm
        rw [Attempts.mapM_eq_ok_iff, ← hSound.taken,
          List.take_of_length_le]
        rw [← hSound.length]
        exact List.getElem?_eq_none_iff.mp hNext
  | cancels place hOutcome hWaiting =>
      apply hSound.assign
      · rintro result ⟨⟩
      · intro hOpen
        rw [hOpen] at hOutcome
        cases hOutcome

/- Every pool that a run leads to is sound. -/
theorem Reached.sound
    (hReached : Reached work workers jobs pool) :
    Sound work jobs pool := by
  induction hReached with
  | refl => exact sound_start work jobs
  | tail _ hStep ih => exact hStep.sound ih

/- A run that has settled has the outcome of the jobs in order. -/
theorem Reached.outcome_of_settled
    (hReached : Reached work workers jobs pool)
    (hSettled : pool.Settled) :
    pool.outcome = some (jobs.mapM work) := by
  rcases Option.isSome_iff_exists.mp hSettled.outcome with
    ⟨outcome, hOutcome⟩
  rw [hOutcome, hReached.sound.outcome outcome hOutcome]

------------------------------------------------------------
-- Every Run Goes On Until It Settles
------------------------------------------------------------

/- Where no job is running, no worker is busy. -/
theorem busy_eq_zero
    (hNone : ∀ slot ∈ pool.slots, slot.isRunning = false) :
    pool.busy = 0 := by
  unfold busy
  rw [List.countP_eq_zero]
  intro slot hMember
  rw [hNone slot hMember]
  exact Bool.false_ne_true

/-
  A pool of one worker at least is settled or can take a step.
  A running job can be finished; where none is running there
  is a free worker for a waiting job; and where all jobs are
  over, the next result can be taken.
-/
theorem Sound.settled_or_exists_step
    (hSound : Sound work jobs pool)
    (hWorkers : 1 ≤ workers) :
    pool.Settled ∨ ∃ next, Step work workers jobs pool next := by
  by_cases hRunning : .running ∈ pool.slots
  · rcases List.mem_iff_getElem?.mp hRunning with ⟨place, hPlace⟩
    have hLess : place < jobs.length := by
      rw [← hSound.length]
      exact (List.getElem?_eq_some_iff.mp hPlace).1
    exact .inr ⟨_, .finishes place jobs[place] hPlace
      (List.getElem?_eq_getElem hLess)⟩
  · by_cases hWaiting : .waiting ∈ pool.slots
    · rcases List.mem_iff_getElem?.mp hWaiting with ⟨place, hPlace⟩
      have hIdle : pool.busy = 0 := by
        apply busy_eq_zero
        intro slot hMember
        cases slot with
        | running => exact absurd hMember hRunning
        | _ => rfl
      exact .inr ⟨_, .starts place hPlace (by omega)⟩
    · cases hOutcome : pool.outcome with
      | some outcome =>
          refine .inl ⟨by rw [hOutcome]; rfl, ?_⟩
          intro slot hMember
          cases slot with
          | waiting => exact absurd hMember hWaiting
          | running => exact absurd hMember hRunning
          | finished result => rfl
          | cancelled => rfl
      | none =>
          cases hNext : pool.next? with
          | none => exact .inr ⟨_, .completes hOutcome hNext⟩
          | some slot =>
              have hMember : slot ∈ pool.slots :=
                List.mem_of_getElem? hNext
              cases slot with
              | waiting => exact absurd hMember hWaiting
              | running => exact absurd hMember hRunning
              | cancelled =>
                  exact absurd hNext (hSound.kept hOutcome _)
              | finished result =>
                  cases result with
                  | ok value =>
                      exact .inr ⟨_, .takes value hOutcome hNext⟩
                  | error fault =>
                      exact .inr ⟨_, .fails fault hOutcome hNext⟩

------------------------------------------------------------
-- Every Run Comes to an End
------------------------------------------------------------

/- The number of steps that a job can still take. -/
def slotWeight : Slot ε β → Nat
  | .waiting => 2
  | .running => 1
  | _ => 0

/- The number of steps that some jobs can still take. -/
def slotsWeight : List (Slot ε β) → Nat
  | [] => 0
  | slot :: rest => slotWeight slot + slotsWeight rest

/-
  A bound on the steps that a pool can still take: those of
  its jobs, and those of taking the results that are left.
-/
def weight
    (pool : Pool ε β) : Nat :=
  slotsWeight pool.slots +
    if pool.outcome.isNone then
      pool.slots.length - pool.taken.length + 1
    else 0

/- What becomes of a job lowers the weight with its own. -/
theorem slotsWeight_set_lt
    {slots : List (Slot ε β)}
    {place : Nat}
    {old new : Slot ε β}
    (hOld : slots[place]? = some old)
    (hLess : slotWeight new < slotWeight old) :
    slotsWeight (slots.set place new) < slotsWeight slots := by
  induction slots generalizing place with
  | nil => cases hOld
  | cons slot rest ih =>
      cases place with
      | zero =>
          cases hOld
          simp only [List.set_cons_zero, slotsWeight]
          omega
      | succ place =>
          have hRest := ih hOld
          simp only [List.set_cons_succ, slotsWeight]
          omega

/- What becomes of a job lowers the weight of its pool. -/
theorem weight_assign_lt
    {place : Nat}
    {old new : Slot ε β}
    (hOld : pool.slots[place]? = some old)
    (hLess : slotWeight new < slotWeight old) :
    (pool.assign place new).weight < pool.weight := by
  have hSlots := slotsWeight_set_lt hOld hLess
  simp only [weight, assign, List.length_set]
  omega

/- Every step lowers the weight of a pool. -/
theorem Step.weight_lt
    (hStep : Step work workers jobs pool next) :
    next.weight < pool.weight := by
  cases hStep with
  | starts place hWaiting hFree =>
      exact weight_assign_lt hWaiting Nat.one_lt_two
  | finishes place job hRunning hJob =>
      exact weight_assign_lt hRunning Nat.zero_lt_one
  | takes value hOpen hNext =>
      have hLess := (List.getElem?_eq_some_iff.mp hNext).1
      simp only [weight, hOpen, Option.isNone_none, if_true,
        List.length_append, List.length_singleton]
      omega
  | fails fault hOpen hNext =>
      simp only [weight, hOpen, Option.isNone_none,
        Option.isNone_some, if_true, Bool.false_eq_true, if_false]
      omega
  | completes hOpen hNext =>
      simp only [weight, hOpen, Option.isNone_none,
        Option.isNone_some, if_true, Bool.false_eq_true, if_false]
      omega
  | cancels place hOutcome hWaiting =>
      exact weight_assign_lt hWaiting Nat.zero_lt_two

/- No run goes on for ever. -/
theorem wellFounded_step
    (work : α → Except ε β)
    (workers : Nat)
    (jobs : List α) :
    WellFounded fun next pool : Pool ε β =>
      Step work workers jobs pool next :=
  Subrelation.wf (fun hStep => hStep.weight_lt)
    (measure weight).wf

/- From every sound pool some run settles. -/
theorem Sound.exists_settled
    (hSound : Sound work jobs pool)
    (hWorkers : 1 ≤ workers) :
    ∃ last : Pool ε β,
      Relation.ReflTransGen (Step work workers jobs) pool last ∧
        last.Settled := by
  induction pool using (wellFounded_step work workers jobs).induction with
  | _ pool ih =>
      rcases hSound.settled_or_exists_step hWorkers with
        hSettled | ⟨next, hStep⟩
      · exact ⟨pool, .refl, hSettled⟩
      · rcases ih next hStep (hStep.sound hSound) with
          ⟨last, hRun, hSettled⟩
        exact ⟨last, .head hStep hRun, hSettled⟩

end Pool

------------------------------------------------------------
-- Reading Sources at Once
------------------------------------------------------------

namespace Source

/-
  The outcomes of reading sources with some workers. One
  worker, or one source, needs no pool: the sources are read
  one after the other. Otherwise an outcome is that of a pool
  that has settled.
-/
def ParsesTo
    (tree : FileTree)
    (workers : Nat)
    (sources : List Source)
    (outcome : Except Fault (List ModuleDoc)) : Prop :=
  if workers ≤ 1 ∨ sources.length ≤ 1 then
    outcome = parseAll tree sources
  else
    ∃ pool : Pool Fault ModuleDoc,
      Pool.Reached (parse tree) workers sources pool ∧
        pool.Settled ∧ pool.outcome = some outcome

/-
  However many workers read the sources, and in whatever order
  they start and finish, there is one outcome, that of reading
  one source after the other: the modules in the order of the
  sources, or the fault of the first source that cannot be
  read. Every run reaches it, since a run goes on until it has
  settled, and none goes on for ever.
-/
theorem parsesTo_iff_parseAll
    (tree : FileTree)
    (sources : List Source)
    {workers : Nat}
    (hWorkers : 1 ≤ workers) :
    (∀ outcome,
      ParsesTo tree workers sources outcome ↔
        outcome = parseAll tree sources) ∧
    (∀ pool, Pool.Reached (parse tree) workers sources pool →
      (pool.Settled →
        pool.outcome = some (parseAll tree sources)) ∧
      (pool.Settled ∨
        ∃ next, Pool.Step (parse tree) workers sources pool next)) ∧
    (WellFounded fun next pool =>
      Pool.Step (parse tree) workers sources pool next) ∧
    (∀ modules, parseAll tree sources = .ok modules ↔
      sources.map (parse tree) = modules.map .ok) ∧
    (∀ fault, parseAll tree sources = .error fault ↔
      ∃ before source after,
        sources = before ++ source :: after ∧
          (∀ earlier ∈ before, ∃ module,
            parse tree earlier = .ok module) ∧
          parse tree source = .error fault) := by
  refine ⟨?_, ?_, Pool.wellFounded_step _ _ _,
    fun modules => Attempts.mapM_eq_ok_iff,
    fun fault => Attempts.mapM_eq_error_iff⟩
  · intro outcome
    unfold ParsesTo
    split
    · exact Iff.rfl
    · constructor
      · rintro ⟨pool, hReached, hSettled, hOutcome⟩
        rw [hReached.outcome_of_settled hSettled] at hOutcome
        exact (Option.some.inj hOutcome).symm
      · rintro rfl
        rcases (Pool.sound_start (parse tree) sources).exists_settled
            hWorkers with ⟨last, hReached, hSettled⟩
        exact ⟨last, hReached, hSettled,
          Pool.Reached.outcome_of_settled hReached hSettled⟩
  · intro pool hReached
    exact ⟨hReached.outcome_of_settled,
      hReached.sound.settled_or_exists_step hWorkers⟩

/-
  Two workers read two sources of which neither can be read.
  The second may have failed while the first is still being
  read, and yet the outcome is the fault of the first.
-/
theorem parsesTo_iff_parseAll_late :
    let tree : FileTree :=
      { root :=
          .directory
            [("a".toList, .file [0xff]), ("b".toList, .file [0x80])] }
    let source (name : Text) : Source :=
      { root := {}, path := { segments := [name] },
        fileExtension := "dwl".toList }
    let fault (name : Text) (lead : Nat) : Fault :=
      .sourceUnreadable name { segments := [name] }
        (.decoding ⟨0, lead, 1, .invalidStart⟩)
    let sources := [source "a".toList, source "b".toList]
    1 ≤ 2 ∧
    (∃ pool : Pool Fault ModuleDoc,
      Pool.Reached (parse tree) 2 sources pool ∧
        pool.slots =
          [.running, .finished (.error (fault "b".toList 0x80))]) ∧
    ∀ outcome,
      ParsesTo tree 2 sources outcome ↔
        outcome = .error (fault "a".toList 0xff) := by
  intro tree source fault sources
  have hWorkers : 1 ≤ 2 := Nat.le_succ 1
  have hFirst : parseAll tree sources =
      .error (fault "a".toList 0xff) := by
    rfl
  refine ⟨hWorkers, ?_, ?_⟩
  · let idle := Pool.start Fault ModuleDoc sources
    have hFirstStarts :
        Pool.Step (parse tree) 2 sources idle
          (idle.assign 0 .running) :=
      .starts 0 rfl Nat.zero_lt_two
    have hSecondStarts :
        Pool.Step (parse tree) 2 sources (idle.assign 0 .running)
          ((idle.assign 0 .running).assign 1 .running) :=
      .starts 1 rfl Nat.one_lt_two
    refine ⟨_, .tail (.tail (.tail .refl hFirstStarts) hSecondStarts)
      (.finishes 1 (source "b".toList) rfl rfl), ?_⟩
    rfl
  · rw [← hFirst]
    exact (parsesTo_iff_parseAll tree sources hWorkers).1

end Source

end Marginalia

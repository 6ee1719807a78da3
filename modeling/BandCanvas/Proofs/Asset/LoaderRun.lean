import BandCanvas.Asset.Loader

namespace BandCanvas

inductive WorkerStep where
  | take (w : Nat)
  | check (w : Nat)
  | post (w : Nat) (picture : Option Bitmap)

def Worker.job? : Worker → Option LoadJob
  | idle => none
  | holding job | fetching job => some job

namespace ImageLoader

def workerStep (l : ImageLoader) : WorkerStep → ImageLoader
  | .take w => l.take w
  | .check w => l.check w
  | .post w picture => l.post (fun _ => picture) w

def workerSteps (l : ImageLoader) (steps : List WorkerStep) : ImageLoader :=
  steps.foldl workerStep l

/-- The first half of a reset: everything that was asked for is of an older generation. -/
def advance (l : ImageLoader) : ImageLoader :=
  { l with generation := l.generation + 1 }

/-- The second half of a reset: what has finished is dropped. -/
def discard (l : ImageLoader) : ImageLoader :=
  { l with finished := [] }

/-- A reset with what workers do between its halves. -/
def resetDuring (during : List WorkerStep) (l : ImageLoader) : ImageLoader :=
  (l.advance.workerSteps during).discard

def jobs (l : ImageLoader) : List LoadJob :=
  l.workers.filterMap Worker.job? ++ l.queue

def isCurrent (l : ImageLoader) (job : LoadJob) : Bool :=
  job.generation = l.generation

/-- Paths asked for in the present generation that have not been handed over. -/
def outstanding (l : ImageLoader) : List String :=
  l.poll.1.map ImageLoad.path ++ (l.jobs.filter l.isCurrent).map LoadJob.path

/-- There is no job for the workers, and none of them has one. -/
structure AtRest (l : ImageLoader) : Prop where
  queue : l.queue = []
  workers : ∀ w ∈ l.workers, w = .idle

/-- Nothing is of a generation that is still to come. -/
structure Dated (l : ImageLoader) : Prop where
  jobs : ∀ job ∈ l.jobs, job.generation ≤ l.generation
  finished : ∀ f ∈ l.finished, f.1 ≤ l.generation

/-- All that a step of a worker can do. -/
inductive Step (l : ImageLoader) : ImageLoader → Prop
  | stay : Step l l
  | take {before after : List Worker} {job : LoadJob} {queue : List LoadJob}
    (hworkers : l.workers = before ++ .idle :: after) (hqueue : l.queue = job :: queue) :
    Step l { l with queue, workers := before ++ .holding job :: after }
  | keep {before after : List Worker} {job : LoadJob}
    (hworkers : l.workers = before ++ .holding job :: after) (hjob : l.isCurrent job = true) :
    Step l { l with workers := before ++ .fetching job :: after }
  | drop {before after : List Worker} {job : LoadJob}
    (hworkers : l.workers = before ++ .holding job :: after) (hjob : l.isCurrent job = false) :
    Step l { l with workers := before ++ .idle :: after }
  | post {before after : List Worker} {job : LoadJob} (picture : Option Bitmap)
    (hworkers : l.workers = before ++ .fetching job :: after) :
    Step l { l with
      workers := before ++ .idle :: after
      finished := l.finished ++ [(job.generation, ⟨job.path, picture⟩)] }

theorem exists_split {ws : List Worker} {w : Nat} {x : Worker} (h : ws[w]? = some x) :
    ∃ before after, ws = before ++ x :: after ∧ ∀ y, ws.set w y = before ++ y :: after := by
  obtain ⟨hw, hx⟩ := List.getElem?_eq_some_iff.1 h
  have hset : ∀ y, ws.set w y = ws.take w ++ y :: ws.drop (w + 1) :=
    fun y => List.set_eq_take_append_cons_drop.trans (if_pos hw)
  have hself := hset x
  rw [← hx, List.set_getElem_self] at hself
  exact ⟨ws.take w, ws.drop (w + 1), hx ▸ hself, hset⟩

theorem workerStep_step (l : ImageLoader) (s : WorkerStep) : l.Step (l.workerStep s) := by
  cases s with
  | take w =>
    rw [workerStep, ImageLoader.take]
    split
    next job queue hidle hqueue =>
      obtain ⟨before, after, hworkers, hset⟩ := exists_split hidle
      rw [hset]
      exact .take hworkers hqueue
    next => exact .stay
  | check w =>
    rw [workerStep, check]
    split
    next job hholding =>
      obtain ⟨before, after, hworkers, hset⟩ := exists_split hholding
      dsimp only
      split
      next hcurrent =>
        rw [hset]
        exact .keep hworkers (decide_eq_true hcurrent)
      next hstale =>
        rw [hset]
        exact .drop hworkers (decide_eq_false hstale)
    next => exact .stay
  | post w picture =>
    rw [workerStep, ImageLoader.post]
    split
    next job hfetching =>
      obtain ⟨before, after, hworkers, hset⟩ := exists_split hfetching
      rw [hset]
      exact .post picture hworkers
    next => exact .stay

theorem jobs_perm {l : ImageLoader} {before after : List Worker} {w : Worker}
    (h : l.workers = before ++ w :: after) :
    l.jobs.Perm (w.job?.toList ++ ((before ++ after).filterMap Worker.job? ++ l.queue)) := by
  have hperm : (before ++ w :: after).Perm (w :: (before ++ after)) := List.perm_middle
  have hjobs := (hperm.filterMap Worker.job?).append_right l.queue
  rw [jobs, h]
  cases hjob : w.job? with
  | none =>
    rw [List.filterMap_cons_none hjob] at hjobs
    exact hjobs
  | some job =>
    rw [List.filterMap_cons_some hjob] at hjobs
    exact hjobs

theorem dated_initial : Dated initial where
  jobs := List.forall_mem_nil _
  finished := List.forall_mem_nil _

namespace Step

variable {l l' : ImageLoader}

theorem generation (h : l.Step l') : l'.generation = l.generation := by
  cases h <;> rfl

/-- No job goes, but one that is stale, or one that is done and reported. -/
theorem jobs_cases (h : l.Step l') :
    (l.jobs.Perm l'.jobs ∧ l'.finished = l.finished) ∨
      ∃ job, l.jobs.Perm (job :: l'.jobs) ∧
        (l.isCurrent job = false ∧ l'.finished = l.finished ∨
          ∃ picture, l'.finished = l.finished ++ [(job.generation, ⟨job.path, picture⟩)]) := by
  cases h with
  | stay => exact .inl ⟨.refl _, rfl⟩
  | @take before after job queue hworkers hqueue =>
    have hidle := jobs_perm hworkers
    have hholding :=
      jobs_perm (l := { l with queue, workers := before ++ .holding job :: after }) rfl
    rw [hqueue] at hidle
    exact .inl ⟨hidle.trans (List.perm_middle.trans hholding.symm), rfl⟩
  | @keep before after job hworkers hjob =>
    have hholding := jobs_perm hworkers
    have hfetching := jobs_perm (l := { l with workers := before ++ .fetching job :: after }) rfl
    exact .inl ⟨hholding.trans hfetching.symm, rfl⟩
  | @drop before after job hworkers hjob =>
    have hholding := jobs_perm hworkers
    have hidle := jobs_perm (l := { l with workers := before ++ .idle :: after }) rfl
    exact .inr ⟨job, hholding.trans (hidle.symm.cons job), .inl ⟨hjob, rfl⟩⟩
  | @post before after job picture hworkers =>
    have hfetching := jobs_perm hworkers
    have hidle := jobs_perm (l := { l with
      workers := before ++ .idle :: after
      finished := l.finished ++ [(job.generation, ⟨job.path, picture⟩)] }) rfl
    exact .inr ⟨job, hfetching.trans (hidle.symm.cons job), .inr ⟨picture, rfl⟩⟩

theorem dated (h : l.Step l') (hl : l.Dated) : l'.Dated := by
  rcases h.jobs_cases with ⟨hjobs, hfinished⟩ | ⟨job, hjobs, hdone⟩
  · constructor
    · rw [h.generation]
      exact fun job hjob => hl.jobs job (hjobs.mem_iff.2 hjob)
    · rw [hfinished, h.generation]
      exact hl.finished
  · constructor
    · rw [h.generation]
      exact fun job hjob => hl.jobs job (hjobs.mem_iff.2 (List.mem_cons_of_mem _ hjob))
    · rw [h.generation]
      rcases hdone with ⟨-, hfinished⟩ | ⟨picture, hfinished⟩
      · rw [hfinished]
        exact hl.finished
      · rw [hfinished]
        intro f hf
        rcases List.mem_append.1 hf with hf | hf
        · exact hl.finished f hf
        · rw [List.mem_singleton.1 hf]
          exact hl.jobs job (hjobs.mem_iff.2 List.mem_cons_self)

theorem isCurrent (h : l.Step l') : l'.isCurrent = l.isCurrent := by
  funext job
  rw [ImageLoader.isCurrent, ImageLoader.isCurrent, h.generation]

/-- A step of a worker loses nothing of what is outstanding, and adds nothing to it. -/
theorem outstanding (h : l.Step l') : l.outstanding.Perm l'.outstanding := by
  simp only [ImageLoader.outstanding, poll, h.isCurrent, h.generation]
  rcases h.jobs_cases with ⟨hjobs, hfinished⟩ | ⟨job, hjobs, ⟨hstale, hfinished⟩ | ⟨picture, hfinished⟩⟩
  · rw [hfinished]
    exact ((hjobs.filter _).map _).append_left _
  · have hkept := (hjobs.filter l.isCurrent).map LoadJob.path
    rw [List.filter_cons_of_neg (Bool.eq_false_iff.1 hstale)] at hkept
    rw [hfinished]
    exact hkept.append_left _
  · have hkept := (hjobs.filter l.isCurrent).map LoadJob.path
    rw [hfinished]
    apply (hkept.append_left _).trans
    apply List.Perm.of_eq
    by_cases hjob : job.generation = l.generation <;>
      simp [ImageLoader.isCurrent, hjob, List.filter_append]

end Step

variable {l : ImageLoader}

theorem workerSteps_kept (steps : List WorkerStep) (hl : l.Dated) :
    (l.workerSteps steps).generation = l.generation ∧ (l.workerSteps steps).Dated ∧
      l.outstanding.Perm (l.workerSteps steps).outstanding := by
  induction steps generalizing l with
  | nil => exact ⟨rfl, hl, .refl _⟩
  | cons s steps ih =>
    have hstep := l.workerStep_step s
    obtain ⟨hgeneration, hdated, houtstanding⟩ := ih (hstep.dated hl)
    exact ⟨hgeneration.trans hstep.generation, hdated, hstep.outstanding.trans houtstanding⟩

theorem request_dated (hl : l.Dated) (path : String) : (l.request path).Dated where
  jobs job hjob := by
    rw [jobs, request, ← List.append_assoc] at hjob
    rcases List.mem_append.1 hjob with hjob | hjob
    · exact hl.jobs job hjob
    · rw [List.mem_singleton.1 hjob]
      exact Nat.le_refl _
  finished := hl.finished

theorem request_outstanding (l : ImageLoader) (path : String) :
    (l.request path).outstanding = l.outstanding ++ [path] := by
  have hjobs : (l.request path).jobs = l.jobs ++ [⟨path, l.generation⟩] :=
    (List.append_assoc _ _ _).symm
  have hcurrent : (l.request path).isCurrent = l.isCurrent := rfl
  have hpoll : (l.request path).poll.1 = l.poll.1 := rfl
  rw [outstanding, hjobs, hcurrent, hpoll, List.filter_append, List.map_append, outstanding,
    List.append_assoc]
  simp [isCurrent]

theorem poll_dated (hl : l.Dated) : l.poll.2.Dated where
  jobs := hl.jobs
  finished := List.forall_mem_nil _

theorem poll_outstanding (l : ImageLoader) :
    l.outstanding = l.poll.1.map ImageLoad.path ++ l.poll.2.outstanding :=
  rfl

/-- Whatever workers do during a reset, nothing is outstanding after it. -/
theorem resetDuring_kept (hl : l.Dated) (during : List WorkerStep) :
    (l.resetDuring during).Dated ∧ (l.resetDuring during).outstanding = [] := by
  have hadvanced : l.advance.Dated :=
    ⟨fun job hjob => Nat.le_succ_of_le (hl.jobs job hjob),
      fun f hf => Nat.le_succ_of_le (hl.finished f hf)⟩
  have hnone : l.advance.outstanding = [] := by
    have hloads : l.advance.poll.1 = [] := by
      apply List.map_eq_nil_iff.2
      apply List.filter_eq_nil_iff.2
      intro f hf hcurrent
      exact Nat.ne_of_lt (Nat.lt_succ_of_le (hl.finished f hf)) (of_decide_eq_true hcurrent)
    have hjobs : l.advance.jobs.filter l.advance.isCurrent = [] := by
      apply List.filter_eq_nil_iff.2
      intro job hjob hcurrent
      exact Nat.ne_of_lt (Nat.lt_succ_of_le (hl.jobs job hjob)) (of_decide_eq_true hcurrent)
    rw [outstanding, hloads, hjobs]
    rfl
  obtain ⟨hgeneration, hdated, houtstanding⟩ := workerSteps_kept during hadvanced
  rw [hnone] at houtstanding
  constructor
  · exact ⟨hdated.jobs, List.forall_mem_nil _⟩
  · have hempty := houtstanding.nil_eq.symm
    rw [outstanding] at hempty
    exact (List.append_eq_nil_iff.1 hempty).2

theorem AtRest.outstanding (h : l.AtRest) : l.outstanding = l.poll.1.map ImageLoad.path := by
  have hjobs : l.jobs = [] := by
    rw [jobs, h.queue, List.append_nil]
    apply List.filterMap_eq_nil_iff.2
    intro w hw
    rw [h.workers w hw]
    rfl
  rw [ImageLoader.outstanding, hjobs]
  exact List.append_nil _

end ImageLoader

/-- What happens to a loader: its owner asks it for something, or a worker goes on. -/
inductive LoaderEvent where
  | request (path : String)
  | poll
  | reset (during : List WorkerStep)
  | work (step : WorkerStep)

/-- A loader, with the paths asked for and the loads handed over since its last reset. -/
structure LoaderRun where
  loader : ImageLoader
  requested : List String
  returned : List ImageLoad

namespace LoaderRun

def initial : LoaderRun :=
  ⟨ImageLoader.initial, [], []⟩

def step (r : LoaderRun) : LoaderEvent → LoaderRun
  | .request path => { r with loader := r.loader.request path, requested := r.requested ++ [path] }
  | .poll => { r with loader := r.loader.poll.2, returned := r.returned ++ r.loader.poll.1 }
  | .reset during => ⟨r.loader.resetDuring during, [], []⟩
  | .work s => { r with loader := r.loader.workerStep s }

def run (r : LoaderRun) (events : List LoaderEvent) : LoaderRun :=
  events.foldl step r

/-- Each request since the last reset has been answered, or is outstanding. -/
structure Accounted (r : LoaderRun) : Prop where
  dated : r.loader.Dated
  balance : r.requested.Perm (r.returned.map ImageLoad.path ++ r.loader.outstanding)

variable {r : LoaderRun}

theorem initial_accounted : initial.Accounted where
  dated := ImageLoader.dated_initial
  balance := .refl _

theorem step_accounted (h : r.Accounted) (e : LoaderEvent) : (r.step e).Accounted := by
  cases e with
  | request path =>
    have hbalance := h.balance.append_right [path]
    rw [List.append_assoc, ← ImageLoader.request_outstanding] at hbalance
    exact ⟨ImageLoader.request_dated h.dated path, hbalance⟩
  | poll =>
    have hbalance := h.balance
    rw [ImageLoader.poll_outstanding, ← List.append_assoc, ← List.map_append] at hbalance
    exact ⟨ImageLoader.poll_dated h.dated, hbalance⟩
  | reset during =>
    obtain ⟨hdated, hnone⟩ := ImageLoader.resetDuring_kept h.dated during
    exact ⟨hdated, .of_eq hnone.symm⟩
  | work s =>
    have hstep := r.loader.workerStep_step s
    exact ⟨hstep.dated h.dated, h.balance.trans (hstep.outstanding.append_left _)⟩

theorem run_accounted (h : r.Accounted) (events : List LoaderEvent) : (r.run events).Accounted := by
  induction events generalizing r with
  | nil => exact h
  | cons e events ih => exact ih (step_accounted h e)

theorem run_append (r : LoaderRun) (events more : List LoaderEvent) :
    r.run (events ++ more) = (r.run events).run more :=
  List.foldl_append

theorem Accounted.requested (h : r.Accounted) :
    ∀ l ∈ r.returned ++ r.loader.poll.1, l.path ∈ r.requested := by
  intro l hl
  apply h.balance.mem_iff.2
  rw [ImageLoader.outstanding, ← List.append_assoc, ← List.map_append]
  exact List.mem_append_left _ (List.mem_map.2 ⟨l, hl, rfl⟩)

/-- Requests that can be told apart are not answered twice. -/
theorem Accounted.nodup (h : r.Accounted) (hrequested : r.requested.Nodup) :
    ((r.returned ++ r.loader.poll.1).map ImageLoad.path).Nodup := by
  have hall := h.balance.nodup_iff.1 hrequested
  rw [ImageLoader.outstanding, ← List.append_assoc, ← List.map_append] at hall
  exact (List.nodup_append.1 hall).1

theorem Accounted.atRest (h : r.Accounted) (hrest : r.loader.AtRest) :
    r.requested.Perm ((r.returned ++ r.loader.poll.1).map ImageLoad.path) := by
  rw [List.map_append, ← hrest.outstanding]
  exact h.balance

end LoaderRun

end BandCanvas

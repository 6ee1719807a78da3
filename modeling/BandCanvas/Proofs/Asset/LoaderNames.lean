import BandCanvas.Proofs.Asset.LoaderRun
import Mathlib.Data.Fintype.EquivFin

namespace BandCanvas

variable (f : String → String)

def LoadJob.rename (job : LoadJob) : LoadJob :=
  { job with path := f job.path }

def ImageLoad.rename (l : ImageLoad) : ImageLoad :=
  { l with path := f l.path }

def Worker.rename : Worker → Worker
  | .idle => .idle
  | .holding job => .holding (job.rename f)
  | .fetching job => .fetching (job.rename f)

def LoaderEvent.rename : LoaderEvent → LoaderEvent
  | .request path => .request (f path)
  | e => e

def LoaderEvent.path? : LoaderEvent → Option String
  | .request path => some path
  | _ => none

namespace ImageLoader

def rename (l : ImageLoader) : ImageLoader :=
  { l with
    queue := l.queue.map (LoadJob.rename f)
    workers := l.workers.map (Worker.rename f)
    finished := l.finished.map fun x => (x.1, x.2.rename f) }

theorem take_rename (w : Nat) (l : ImageLoader) : (l.rename f).take w = (l.take w).rename f := by
  obtain ⟨generation, queue, workers, finished⟩ := l
  simp only [take, rename, List.getElem?_map]
  cases workers[w]? with
  | none => rfl
  | some x =>
    cases x with
    | idle =>
      cases queue with
      | nil => rfl
      | cons job queue => simp [Worker.rename, List.map_set]
    | holding | fetching => rfl

theorem check_rename (w : Nat) (l : ImageLoader) : (l.rename f).check w = (l.check w).rename f := by
  simp only [check, rename, List.getElem?_map]
  cases l.workers[w]? with
  | none => rfl
  | some x =>
    cases x with
    | holding job =>
      by_cases hjob : job.generation = l.generation <;>
        simp [Worker.rename, LoadJob.rename, List.map_set, hjob]
    | idle | fetching => rfl

theorem post_rename (picture : Option Bitmap) (w : Nat) (l : ImageLoader) :
    (l.rename f).post (fun _ => picture) w = (l.post (fun _ => picture) w).rename f := by
  simp only [post, rename, List.getElem?_map]
  cases l.workers[w]? with
  | none => rfl
  | some x =>
    cases x with
    | fetching job => simp [Worker.rename, LoadJob.rename, ImageLoad.rename, List.map_set]
    | idle | holding => rfl

theorem workerStep_rename (s : WorkerStep) (l : ImageLoader) :
    (l.rename f).workerStep s = (l.workerStep s).rename f := by
  cases s with
  | take w => exact l.take_rename f w
  | check w => exact l.check_rename f w
  | post w picture => exact l.post_rename f picture w

theorem workerSteps_rename (steps : List WorkerStep) (l : ImageLoader) :
    (l.rename f).workerSteps steps = (l.workerSteps steps).rename f := by
  induction steps generalizing l with
  | nil => rfl
  | cons s steps ih =>
    have hrest := ih (l.workerStep s)
    rw [← workerStep_rename] at hrest
    exact hrest

theorem request_rename (path : String) (l : ImageLoader) :
    (l.rename f).request (f path) = (l.request path).rename f := by
  simp [request, rename, LoadJob.rename]

theorem poll_rename (l : ImageLoader) :
    (l.rename f).poll = (l.poll.1.map (ImageLoad.rename f), l.poll.2.rename f) := by
  simp only [poll, rename, List.filter_map, List.map_map, List.map_nil, Function.comp_def]
  rfl

theorem resetDuring_rename (during : List WorkerStep) (l : ImageLoader) :
    (l.rename f).resetDuring during = (l.resetDuring during).rename f := by
  have hadvance : (l.rename f).advance = l.advance.rename f := rfl
  rw [resetDuring, hadvance, workerSteps_rename]
  rfl

end ImageLoader

namespace LoaderRun

def rename (r : LoaderRun) : LoaderRun :=
  ⟨r.loader.rename f, r.requested.map f, r.returned.map (ImageLoad.rename f)⟩

theorem step_rename (r : LoaderRun) (e : LoaderEvent) :
    (r.rename f).step (e.rename f) = (r.step e).rename f := by
  cases e with
  | request path =>
    simp only [LoaderEvent.rename, step, rename, ImageLoader.request_rename, List.map_append,
      List.map_singleton]
  | poll => simp only [LoaderEvent.rename, step, rename, ImageLoader.poll_rename, List.map_append]
  | reset during =>
    simp only [LoaderEvent.rename, step, rename, ImageLoader.resetDuring_rename, List.map_nil]
  | work s => simp only [LoaderEvent.rename, step, rename, ImageLoader.workerStep_rename]

theorem run_rename (r : LoaderRun) (events : List LoaderEvent) :
    (r.rename f).run (events.map (LoaderEvent.rename f)) = (r.run events).rename f := by
  induction events generalizing r with
  | nil => rfl
  | cons e events ih =>
    have hrest := ih (r.step e)
    rw [← step_rename] at hrest
    exact hrest

theorem initial_rename : initial.rename f = initial :=
  rfl

theorem run_requested (r : LoaderRun) (events : List LoaderEvent) :
    (r.run events).requested.Sublist (r.requested ++ events.filterMap LoaderEvent.path?) := by
  induction events generalizing r with
  | nil => exact List.sublist_append_left _ _
  | cons e events ih =>
    have htail := ih (r.step e)
    cases e with
    | request path =>
      change List.Sublist _ ((r.requested ++ [path]) ++ _) at htail
      rw [List.append_assoc] at htail
      exact htail
    | poll | work => exact htail
    | reset during => exact htail.trans (List.sublist_append_right _ _)

theorem exists_fresh (names : List String) : ∃ name, name ∉ names := by
  have hinfinite : Infinite String := by
    apply Infinite.of_injective fun n : Nat => String.ofList (List.replicate n 'a')
    intro m n h
    simpa using congrArg (fun s : String => s.toList.length) h
  obtain ⟨name, hname⟩ := Infinite.exists_notMem_finset names.toFinset
  exact ⟨name, fun h => hname (List.mem_toFinset.2 h)⟩

/-- All events are those of requests with names of their own, once these are forgotten. -/
theorem exists_named (events : List LoaderEvent) :
    ∃ (f : String → String) (named : List LoaderEvent), named.map (LoaderEvent.rename f) = events ∧
      (named.filterMap LoaderEvent.path?).Nodup := by
  induction events with
  | nil => exact ⟨id, [], rfl, .nil⟩
  | cons e events ih =>
    obtain ⟨f, named, hevents, hnodup⟩ := ih
    cases e with
    | request path =>
      obtain ⟨name, hname⟩ := exists_fresh (named.filterMap LoaderEvent.path?)
      refine ⟨Function.update f name path, .request name :: named, ?_, ?_⟩
      · have hsame : named.map (LoaderEvent.rename (Function.update f name path)) =
            named.map (LoaderEvent.rename f) := by
          apply List.map_congr_left
          intro e he
          cases e with
          | request other =>
            have hne : other ≠ name := by
              rintro rfl
              exact hname (List.mem_filterMap.2 ⟨_, he, rfl⟩)
            exact congrArg LoaderEvent.request (Function.update_of_ne hne path f)
          | poll | reset | work => rfl
        rw [List.map_cons, hsame, hevents]
        exact congrArg (fun p => LoaderEvent.request p :: events) (Function.update_self name path f)
      · exact List.nodup_cons.2 ⟨hname, hnodup⟩
    | poll => exact ⟨f, .poll :: named, congrArg (List.cons _) hevents, hnodup⟩
    | reset during => exact ⟨f, .reset during :: named, congrArg (List.cons _) hevents, hnodup⟩
    | work s => exact ⟨f, .work s :: named, congrArg (List.cons _) hevents, hnodup⟩

end LoaderRun

end BandCanvas

import BandCanvas.Picture.Bitmap

namespace BandCanvas

structure LoadJob where
  path : String
  generation : Nat
  deriving DecidableEq, Repr

structure ImageLoad where
  path : String
  picture : Option Bitmap
  deriving DecidableEq

inductive Worker where
  | idle
  | holding (job : LoadJob)
  | fetching (job : LoadJob)
  deriving DecidableEq, Repr

/-- The queues have their oldest entry first. -/
structure ImageLoader where
  generation : Nat
  queue : List LoadJob
  workers : List Worker
  finished : List (Nat × ImageLoad)
  deriving DecidableEq

namespace ImageLoader

def workerCount : Nat := 4

def initial : ImageLoader :=
  ⟨0, [], List.replicate workerCount .idle, []⟩

def request (path : String) (l : ImageLoader) : ImageLoader :=
  { l with queue := l.queue ++ [⟨path, l.generation⟩] }

def take (w : Nat) (l : ImageLoader) : ImageLoader :=
  match l.workers[w]?, l.queue with
  | some .idle, job :: queue => { l with queue, workers := l.workers.set w (.holding job) }
  | _, _ => l

/-- A worker drops its job if it is of an older generation, and starts to fetch otherwise. -/
def check (w : Nat) (l : ImageLoader) : ImageLoader :=
  match l.workers[w]? with
  | some (.holding job) =>
    let next := if job.generation = l.generation then .fetching job else .idle
    { l with workers := l.workers.set w next }
  | _ => l

def post (fetch : String → Option Bitmap) (w : Nat) (l : ImageLoader) : ImageLoader :=
  match l.workers[w]? with
  | some (.fetching job) =>
    { l with
      workers := l.workers.set w .idle
      finished := l.finished ++ [(job.generation, ⟨job.path, fetch job.path⟩)] }
  | _ => l

def poll (l : ImageLoader) : List ImageLoad × ImageLoader :=
  ((l.finished.filter fun f => f.1 = l.generation).map Prod.snd, { l with finished := [] })

def reset (l : ImageLoader) : ImageLoader :=
  { l with generation := l.generation + 1, finished := [] }

/-- Lets a worker go through what it can do with one job. -/
def work (fetch : String → Option Bitmap) (w : Nat) (l : ImageLoader) : ImageLoader :=
  ((l.take w).check w).post fetch w

/-- Lets the first worker go through all jobs that are waiting. -/
def settle (fetch : String → Option Bitmap) (l : ImageLoader) : ImageLoader :=
  l.queue.foldl (fun l _ => l.work fetch 0) l

end ImageLoader

end BandCanvas

namespace RefWatch

-- Work that tells things bit by bit, and looks at a state that others may change while it sleeps.
inductive Work (σ ω : Type)
  | ended
  | failed
  | tell (w : ω) (rest : Work σ ω)
  | sleep (ticks : Nat) (rest : Work σ ω)
  | look (rest : σ → Work σ ω)

namespace Work

-- Where work stands when it does not run.
inductive Rest (σ ω : Type)
  | finished (failed : Bool)
  | asleep (ticks : Nat) (rest : Work σ ω)

-- Runs until the next sleep; a sleep of no ticks is none.
def run (s : σ) : Work σ ω → List ω × Rest σ ω
  | ended => ([], .finished false)
  | failed => ([], .finished true)
  | tell w rest => (w :: (rest.run s).1, (rest.run s).2)
  | sleep 0 rest => rest.run s
  | sleep (n + 1) rest => ([], .asleep (n + 1) rest)
  | look k => (k s).run s

-- All that is told, if the state does not change.
def output (s : σ) : Work σ ω → List ω
  | ended | failed => []
  | tell w rest => w :: rest.output s
  | sleep _ rest => rest.output s
  | look k => (k s).output s

def duration (s : σ) : Work σ ω → Nat
  | ended | failed => 0
  | tell _ rest => rest.duration s
  | sleep n rest => n + rest.duration s
  | look k => (k s).duration s

def fails (s : σ) : Work σ ω → Bool
  | ended => false
  | failed => true
  | tell _ rest => rest.fails s
  | sleep _ rest => rest.fails s
  | look k => (k s).fails s

-- Tells some things one after another, each at the end of a sleep, and then goes on.
def tellAll (pause : ω → Nat) (ws : List ω) (rest : Work σ ω) : Work σ ω :=
  ws.foldr (fun w rest => sleep (pause w) (tell w rest)) rest

theorem output_tellAll (s : σ) (pause : ω → Nat) (ws : List ω) (rest : Work σ ω) :
    (tellAll pause ws rest).output s = ws ++ rest.output s := by
  induction ws with
  | nil => rfl
  | cons w ws ih => simpa [tellAll, output] using ih

-- What is told later, after a rest.
def Rest.output (s : σ) : Rest σ ω → List ω
  | finished _ => []
  | asleep _ rest => rest.output s

theorem output_run (s : σ) (w : Work σ ω) : (w.run s).1 ++ (w.run s).2.output s = w.output s := by
  fun_induction run s w <;> simp_all [output, Rest.output]

end Work

end RefWatch

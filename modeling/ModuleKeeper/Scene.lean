import ModuleKeeper.Gateway

/-!
# Scenes

The surroundings of a task as one state: a service, a user, what was sent so
far and what was reported so far. A task that runs in a scene can be looked
into from the outside, which is how its behaviour is tested and proved.
-/

namespace ModuleKeeper

/-- The surroundings of a task: a service in state `ρ` and a user in state `υ`. -/
structure Scene (ρ υ : Type) where
  service : ρ
  user : υ
  sent : List Request
  notices : List Notice

namespace Scene

variable {ρ υ : Type}

/-- A scene in which nothing happened yet. -/
def start (service : ρ) (user : υ) : Scene ρ υ := ⟨service, user, [], []⟩

/-- Sends a request to the service of the scene, which behaves as `respond` says. -/
def send (respond : ρ → Request → Reply × ρ) (q : Request) : StateM (Scene ρ υ) Reply :=
  fun s =>
    let (reply, service) := respond s.service q
    (reply, { s with service := service, sent := s.sent ++ [q] })

/-- Reports a notice. -/
def note (n : Notice) : StateM (Scene ρ υ) Unit :=
  fun s => ((), { s with notices := s.notices ++ [n] })

/-- Lets the user of the scene act. -/
def ask {α : Type} (act : υ → α × υ) : StateM (Scene ρ υ) α :=
  fun s =>
    let (a, user) := act s.user
    (a, { s with user := user })

/-- Forgets what was sent and reported so far. -/
def cleared (s : Scene ρ υ) : Scene ρ υ := { s with sent := [], notices := [] }

end Scene

end ModuleKeeper

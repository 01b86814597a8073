import ViewLayers.Provision

/-!
Which plane is in use. The planes are kept on a stack that every provision pushes to and pops from,
also if its body unwinds. What this comes to is told by the nesting of a program alone: the plane in
use is that of the innermost provision around, and every provision leaves the stack as it was.
-/

namespace ViewLayers.Provision

/-! ### What is seen in a run -/

/-- Something that comes about in the body of the steps `around`, the innermost first. -/
inductive Sight where
  /-- The plane in use where one was asked for, if there was any. The answer is made from it. -/
  | used (around : List Step) (plane : Option DataPlane)
  /-- The planes before and after one was provided to a body that returned or unwound. -/
  | provided (around : List Step) (before after : List DataPlane)

mutual

/-- Run a step and tell all that is seen, also what a later unwinding leaves without an answer. -/
def observe (around : List Step) (planes : List DataPlane) :
    Step → List Sight × Option Answer × List DataPlane
  | .use => ([.used around planes.head?], some (planes.head?.elim .outside .plane), planes)
  | .lookup sort name kind (some p) => ([], some (.item (p.item? sort name kind)), planes)
  | .lookup sort name kind none =>
    ([.used around planes.head?],
      some (planes.head?.elim .outside fun p => .item (p.item? sort name kind)), planes)
  | .provide plane body =>
    let inside := observeAll (.provide plane body :: around) (plane :: planes) body
    let after := inside.2.2.tail
    (inside.1 ++ [.provided around planes after], inside.2.1.map .body, after)
  | .extend name client body =>
    match planes with
    | [] => ([.used around none], some .outside, [])
    | p :: _ =>
      let inside := observeAll (.extend name client body :: around)
        (p.withClient name client :: planes) body
      let after := inside.2.2.tail
      (.used around (some p) :: inside.1 ++ [.provided around planes after],
        inside.2.1.map .body, after)
  | .unwind => ([], none, planes)
  | .guarded body =>
    let inside := observeAll (.guarded body :: around) planes body
    (inside.1, some (inside.2.1.elim .caught .body), inside.2.2)
  | .apart body =>
    let inside := observeAll (.apart body :: around) [] body
    (inside.1, some (inside.2.1.elim .broken .body), planes)

def observeAll (around : List Step) (planes : List DataPlane) :
    List Step → List Sight × Option (List Answer) × List DataPlane
  | [] => ([], some [], planes)
  | s :: ss =>
    match observe around planes s with
    | (seen, none, planes) => (seen, none, planes)
    | (seen, some a, planes) =>
      let rest := observeAll around planes ss
      (seen ++ rest.1, rest.2.1.map (a :: ·), rest.2.2)

end

mutual

/-- What is seen does not change what is run. -/
theorem snd_observe (around : List Step) (planes : List DataPlane) :
    (s : Step) → (observe around planes s).2 = run planes s
  | .use | .unwind => rfl
  | .lookup _ _ _ none | .lookup _ _ _ (some _) => rfl
  | .provide plane body => by
    rw [run, ← snd_observeAll (.provide plane body :: around)]
    rfl
  | .extend name client body => by
    cases planes with
    | nil => rfl
    | cons p planes =>
      rw [run, ← snd_observeAll (.extend name client body :: around)]
      rfl
  | .guarded body => by
    rw [run, ← snd_observeAll (.guarded body :: around)]
    rfl
  | .apart body => by
    rw [run, ← snd_observeAll (.apart body :: around)]
    rfl

theorem snd_observeAll (around : List Step) (planes : List DataPlane) :
    (ss : List Step) → (observeAll around planes ss).2 = runAll planes ss
  | [] => rfl
  | s :: ss => by
    rw [observeAll, runAll, ← snd_observe around]
    obtain ⟨seen, _ | a, planes⟩ := observe around planes s
    · rfl
    · show _ = match runAll planes ss with | (r, planes) => _
      rw [← snd_observeAll around planes ss]

end

/-! ### The stack -/

mutual

/-- **A step leaves the planes as they were**, whether it returns or unwinds. -/
theorem snd_run (planes : List DataPlane) : (s : Step) → (run planes s).2 = planes
  | .use | .unwind | .lookup _ _ _ _ | .apart _ => rfl
  | .provide plane body => by
    rw [run]
    show (runAll (plane :: planes) body).2.tail = planes
    rw [snd_runAll, List.tail_cons]
  | .extend name client body => by
    cases planes with
    | nil => rfl
    | cons p planes =>
      rw [run]
      show (runAll (p.withClient name client :: p :: planes) body).2.tail = p :: planes
      rw [snd_runAll, List.tail_cons]
  | .guarded body => by
    rw [run]
    exact snd_runAll planes body

theorem snd_runAll (planes : List DataPlane) : (ss : List Step) → (runAll planes ss).2 = planes
  | [] => rfl
  | s :: ss => by
    have hs := snd_run planes s
    rw [runAll]
    generalize run planes s = r at hs ⊢
    obtain ⟨_ | a, after⟩ := r
    · exact hs
    · obtain rfl : after = planes := hs
      exact snd_runAll after ss

end

theorem tail_observeAll (around : List Step) (plane : DataPlane) (planes : List DataPlane)
    (body : List Step) : (observeAll around (plane :: planes) body).2.2.tail = planes := by
  rw [snd_observeAll, snd_runAll, List.tail_cons]

/-! ### The nesting -/

/-- The planes that the steps around provide to what they run, the innermost first. -/
def given : List Step → List DataPlane
  | .provide plane _ :: around => plane :: given around
  | .extend name client _ :: around =>
    (given around).head?.toList.map (·.withClient name client) ++ given around
  | .apart _ :: _ => []
  | _ :: around => given around
  | [] => []

/-- What is seen agrees with the nesting. -/
def Sight.Scoped : Sight → Prop
  | .used around plane => plane = (given around).head?
  | .provided around before after => before = given around ∧ after = before

mutual

/-- In the body of a step the stack holds what the steps around provide. -/
theorem scoped_observe (around : List Step) :
    (s : Step) → ∀ x ∈ (observe around (given around) s).1, x.Scoped
  | .use => by
    intro x hx
    obtain rfl := List.mem_singleton.1 hx
    rfl
  | .lookup _ _ _ none => by
    intro x hx
    obtain rfl := List.mem_singleton.1 hx
    rfl
  | .lookup _ _ _ (some _) | .unwind => fun x hx => by cases hx
  | .provide plane body => by
    intro x hx
    rcases List.mem_append.1 hx with hx | hx
    · exact scoped_observeAll (.provide plane body :: around) body x hx
    · obtain rfl := List.mem_singleton.1 hx
      exact ⟨rfl, tail_observeAll _ _ _ _⟩
  | .extend name client body => by
    intro x hx
    have hbody := scoped_observeAll (.extend name client body :: around) body
    cases hg : given around with
    | nil =>
      -- nothing is provided around, and the body does not run
      rw [hg] at hx
      obtain rfl := List.mem_singleton.1 hx
      exact congrArg List.head? hg.symm
    | cons p planes =>
      have hgiven : given (.extend name client body :: around) =
          p.withClient name client :: p :: planes := by
        rw [given, hg]
        rfl
      rw [hgiven] at hbody
      rw [hg, observe] at hx
      rcases List.mem_cons.1 hx with rfl | hx
      · exact congrArg List.head? hg.symm
      · rcases List.mem_append.1 hx with hx | hx
        · exact hbody x hx
        · obtain rfl := List.mem_singleton.1 hx
          exact ⟨hg.symm, tail_observeAll _ _ _ _⟩
  | .guarded body => scoped_observeAll (.guarded body :: around) body
  | .apart body => scoped_observeAll (.apart body :: around) body

theorem scoped_observeAll (around : List Step) :
    (ss : List Step) → ∀ x ∈ (observeAll around (given around) ss).1, x.Scoped
  | [] => fun x hx => by cases hx
  | s :: ss => by
    intro x hx
    have hs := scoped_observe around s
    have hafter : (observe around (given around) s).2.2 = given around := by
      rw [snd_observe, snd_run]
    rw [observeAll] at hx
    generalize observe around (given around) s = r at hs hafter hx
    obtain ⟨seen, _ | a, after⟩ := r
    · exact hs x hx
    · obtain rfl : after = given around := hafter
      rcases List.mem_append.1 hx with hx | hx
      · exact hs x hx
      · exact scoped_observeAll around ss x hx

end

/-- **The plane in use is that of the innermost provision that runs around.** In every program,
wherever it unwinds and is caught: a plane that is asked for is the one given by the innermost
provision around, none exactly where there is no such provision, and a provision leaves the planes
as they were, whether its body returns or unwinds. -/
theorem uses_innermost (program : List Step) :
    (observeAll [] [] program).2 = runAll [] program ∧
      (∀ x ∈ (observeAll [] [] program).1, x.Scoped) ∧
      (∀ planes s, (run planes s).2 = planes) :=
  ⟨snd_observeAll [] [] program, scoped_observeAll [] program, snd_run⟩

end ViewLayers.Provision

import Mathlib.Data.List.Pairwise

namespace EffectLog

/-!
# Logs of effects

A sequential program that calls into an environment leaves a log.  Every
effect in it is about at most one key, and what is said about a key is said
about its history: the effects about it, in order.
-/

/-! ## Programs -/

section Programs

variable {State Result Other : Type}

/-- The program, started in `state`, ends with `post`. -/
def Ensures
    (program : StateM State Result)
    (state : State)
    (post : Result → State → Prop) : Prop :=
  post (program state).1 (program state).2

/-- A program that does nothing ensures what holds already. -/
theorem Ensures.pure
    {result : Result}
    {state : State}
    {post : Result → State → Prop}
    (held : post result state) :
    Ensures (Pure.pure result) state post :=
  held

/-- The rule of sequence: the second program starts where the first ends. -/
theorem Ensures.bind
    {program : StateM State Result}
    {later : Result → StateM State Other}
    {state : State}
    {middle : Result → State → Prop}
    {post : Other → State → Prop}
    (first : Ensures program state middle)
    (next :
      ∀ {result reached},
        middle result reached →
        Ensures (later result) reached post) :
    Ensures (program >>= later) state post :=
  next first

/-- What comes later ensures it wherever it starts. -/
theorem Ensures.bindAny
    {program : StateM State Result}
    {later : Result → StateM State Other}
    {state : State}
    {post : Other → State → Prop}
    (next : ∀ result reached, Ensures (later result) reached post) :
    Ensures (program >>= later) state post :=
  next _ _

/-- The rule of consequence. -/
theorem Ensures.weaken
    {program : StateM State Result}
    {state : State}
    {post weaker : Result → State → Prop}
    (ensured : Ensures program state post)
    (implies :
      ∀ {result reached},
        post result reached →
        weaker result reached) :
    Ensures program state weaker :=
  implies ensured

end Programs

/-! ## Histories -/

section Histories

variable {Key Effect : Type} [DecidableEq Key]
variable {about : Effect → Option Key}
variable {key : Key}
variable {log : List Effect}
variable {effect : Effect}

/-- The effects about the key, in order. -/
def history
    (about : Effect → Option Key)
    (key : Key)
    (log : List Effect) :
    List Effect :=
  log.filter fun effect => about effect = some key

/-- The history has the effects of the log that are about the key. -/
theorem mem_history :
    effect ∈ history about key log ↔
      effect ∈ log ∧ about effect = some key := by
  rw [history, List.mem_filter, decide_eq_true_iff]

/-- An effect about the key is the last one of its history. -/
theorem history_append_same
    (same : about effect = some key) :
    history about key (log ++ [effect]) =
      history about key log ++ [effect] := by
  rw [history, List.filter_append,
    List.filter_cons_of_pos (by simpa using same)]
  rfl

/-- An effect about something else is not in it. -/
theorem history_append_other
    (other : about effect ≠ some key) :
    history about key (log ++ [effect]) = history about key log := by
  rw [history, List.filter_append,
    List.filter_cons_of_neg (by simpa using other)]
  exact List.append_nil _

end Histories

/-! ## Effects that exclude later ones -/

section NeverAfter

variable {Effect : Type}
variable {first later : Effect → Bool}
variable {log : List Effect}
variable {effect : Effect}

/-- After an effect of the first kind there is none of the second. -/
def NeverAfter (first later : Effect → Bool) (log : List Effect) : Prop :=
  log.Pairwise fun before after =>
    first before = true → later after = false

/-- Nothing is out of order in an empty log. -/
theorem NeverAfter.nil : NeverAfter first later [] :=
  List.Pairwise.nil

/-- One more effect is in order if nothing before it excludes it. -/
theorem NeverAfter.append
    (never : NeverAfter first later log)
    (allowed :
      later effect = true →
      ∀ before,
        before ∈ log →
        first before = false) :
    NeverAfter first later (log ++ [effect]) := by
  refine List.pairwise_append.mpr
    ⟨never, List.pairwise_singleton _ _, ?_⟩
  intro before member after last started
  obtain rfl := List.mem_singleton.mp last
  by_contra follows
  have excluded := allowed (by simpa using follows) before member
  rw [started] at excluded
  cases excluded

end NeverAfter

end EffectLog

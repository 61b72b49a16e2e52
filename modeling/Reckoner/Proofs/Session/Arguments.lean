import Reckoner.Session

/-!
# Arguments: how they are read one after another

What an argument says does not depend on what has been said before it (`Does`, `does_of_ne`): it adds something to that, perhaps
with the next argument as a value, or nothing comes of the arguments at all. `reading_induction` is the induction that follows. So
arguments in front do not matter to how those after them are read (`read_append`), and to turn on the switch that shows every
event changes nothing else (`read_loud`).
-/

namespace Reckoner

namespace Arguments

/-- What two parts of arguments say together: the lines of both, and of what both say the first notice and the last path. -/
def followedBy (a b : Arguments) : Arguments :=
  ⟨a.lines ++ b.lines, a.tokens || b.tokens, a.tree || b.tree, a.verbose || b.verbose, a.notice <|> b.notice,
    b.config <|> a.config⟩

/-! ## One argument -/

section

variable {a : Arguments} {arg : String}

@[simp] theorem followedBy_none (a : Arguments) : a.followedBy none = a := by
  simp [followedBy, none]

/-- What three parts of arguments say together does not depend on how they are grouped. -/
theorem followedBy_assoc (a b c : Arguments) : (a.followedBy b).followedBy c = a.followedBy (b.followedBy c) := by
  simp [followedBy, Bool.or_assoc, Option.or_assoc]

/-- A line adds to what has been said before it. -/
theorem addLine_eq (a : Arguments) (line : String) : a.addLine line = a.followedBy (none.addLine line) := by
  simp [addLine, followedBy, none]

/-- A switch adds to what has been said before it. -/
theorem turnOn_eq (a : Arguments) (value : String) (s : Switch) : a.turnOn value s = a.followedBy (none.turnOn value s) := by
  cases s <;> simp [turnOn, followedBy, none]

/-- A cluster adds to what has been said before it. -/
theorem readCluster_eq (a : Arguments) (cs : List Char) :
    a.readCluster cs = (a.followedBy (none.readCluster cs).1, (none.readCluster cs).2) := by
  induction cs generalizing a with
  | nil => simp [readCluster]
  | cons c cs ih =>
    unfold readCluster
    split
    · rw [ih a]
    · split
      · simp
      · rw [turnOn_eq]
    · rename_i s _ _
      rw [ih (a.turnOn "" s), ih (none.turnOn "" s), turnOn_eq, followedBy_assoc]

/-- What an argument does to the reading. -/
inductive Does (arg : String) : Prop where
  /-- It adds something to what has been said. -/
  | add (b : Arguments) (h : ∀ a rest, read a (arg :: rest) = read (a.followedBy b) rest)
  /-- It adds something, and takes the next argument as the path of the settings. -/
  | take (b : Arguments) (h : ∀ a, read a [arg] = .none)
      (h' : ∀ a value rest, read a (arg :: value :: rest) = read ((a.followedBy b).turnOn value .config) rest)
  /-- Nothing comes of it, nor of the others. -/
  | fail (h : ∀ a rest, read a (arg :: rest) = .none)

/-- An argument that is read as a line adds that line. -/
theorem does_of_line (h : ∀ a rest, read a (arg :: rest) = (a.addLine arg).read rest) : Does arg :=
  .add (none.addLine arg) fun a rest => by rw [h, addLine_eq]

/-- An argument that is read as a switch adds that switch. -/
theorem does_of_switch (value : String) (s : Switch) (h : ∀ a rest, read a (arg :: rest) = (a.turnOn value s).read rest) :
    Does arg :=
  .add (none.turnOn value s) fun a rest => by rw [h, turnOn_eq]

/-- A long switch adds itself, with its value if it has one; an unknown one is a line. -/
theorem does_of_long {c : Char} {cs : List Char} (hs : arg.toList = '-' :: '-' :: c :: cs) : Does arg := by
  cases hname : Switch.ofName? ((c :: cs).takeWhile (· ≠ '=')) with
  | none =>
    refine does_of_line fun a rest => ?_
    rw [read.eq_def]
    simp only [hs, hname]
  | some s =>
    cases hvalue : (c :: cs).dropWhile (· ≠ '=') with
    | nil =>
      by_cases hconfig : s = .config
      · subst hconfig
        refine .take none (fun a => ?_) fun a value rest => ?_
        · rw [read.eq_def]
          simp only [hs, hname, hvalue]
        · rw [read.eq_def]
          simp only [hs, hname, hvalue, followedBy_none]
      · refine does_of_switch "" s fun a rest => ?_
        rw [read.eq_def]
        simp only [hs, hname, hvalue]
    | cons _ value =>
      by_cases hconfig : s = .config
      · subst hconfig
        refine does_of_switch (String.ofList value) .config fun a rest => ?_
        rw [read.eq_def]
        simp only [hs, hname, hvalue]
      · refine .fail fun a rest => ?_
        rw [read.eq_def]
        simp only [hs, hname, hvalue]

/-- A cluster adds its switches, and its other characters as a line. -/
theorem does_of_cluster {c : Char} {cs : List Char} (hs : arg.toList = '-' :: c :: cs) (hc : c ≠ '-') : Does arg := by
  obtain ⟨⟨b, unknown, wantsNext⟩, hb⟩ : ∃ x, none.readCluster (c :: cs) = x := ⟨_, rfl⟩
  have hread : ∀ a : Arguments, a.readCluster (c :: cs) = (a.followedBy b, unknown, wantsNext) := by
    intro a
    rw [readCluster_eq, hb]
  have hadded : ∃ b' : Arguments, ∀ a : Arguments,
      (if unknown = [] then a.followedBy b else (a.followedBy b).addLine (String.ofList ('-' :: unknown))) =
        a.followedBy b' := by
    by_cases hu : unknown = []
    · exact ⟨b, fun a => if_pos hu⟩
    · refine ⟨b.followedBy (none.addLine (String.ofList ('-' :: unknown))), fun a => ?_⟩
      rw [if_neg hu, addLine_eq, followedBy_assoc]
  obtain ⟨b', hb'⟩ := hadded
  cases wantsNext with
  | false =>
    refine .add b' fun a rest => ?_
    rw [read.eq_def]
    simp [hs, hread, hc, hb', -String.ofList_cons]
  | true =>
    refine .take b' (fun a => ?_) fun a value rest => ?_
    · rw [read.eq_def]
      simp [hs, hread, hc]
    · rw [read.eq_def]
      simp [hs, hread, hc, hb', -String.ofList_cons]

/-- An argument other than the two dashes does the same whatever has been said before it. -/
theorem does_of_ne (h : arg ≠ "--") : Does arg := by
  have hline : (∀ cs, arg.toList ≠ '-' :: cs) ∨ arg.toList = ['-'] → Does arg := by
    intro hs
    refine does_of_line fun a rest => ?_
    rw [read.eq_def]
    rcases hs with hs | hs
    · simp [hs]
    · simp only [hs]
  cases hs : arg.toList with
  | nil => exact hline (.inl fun cs hcs => by rw [hs] at hcs; cases hcs)
  | cons c cs =>
    by_cases hc : c = '-'
    · subst hc
      cases cs with
      | nil => exact hline (.inr hs)
      | cons d ds =>
        by_cases hd : d = '-'
        · subst hd
          cases ds with
          | nil => exact absurd (String.toList_inj.1 hs) h
          | cons e es => exact does_of_long hs
        · exact does_of_cluster hs hd
    · exact hline (.inl fun cs' hcs' => hc (List.cons.inj (hs.symm.trans hcs')).1)

end

/-! ## Arguments one after another -/

/-- The induction that follows the reading of arguments: there are none, or two dashes come first, or an argument that adds
something, one that takes the next one with it, or one of which nothing comes. -/
@[elab_as_elim]
theorem reading_induction {motive : List String → Prop} (nil : motive []) (dashes : ∀ rest, motive ("--" :: rest))
    (add : ∀ arg rest b, (∀ a rest, read a (arg :: rest) = read (a.followedBy b) rest) → motive rest → motive (arg :: rest))
    (take : ∀ arg value rest b,
      (∀ a value rest, read a (arg :: value :: rest) = read ((a.followedBy b).turnOn value .config) rest) → motive rest →
      motive (arg :: value :: rest))
    (fail : ∀ arg rest, (∀ a, read a (arg :: rest) = .none) → motive (arg :: rest)) : ∀ args, motive args
  | [] => nil
  | arg :: rest => by
    by_cases hne : arg = "--"
    · subst hne
      exact dashes rest
    · cases does_of_ne hne with
      | add b h => exact add arg rest b h (reading_induction nil dashes add take fail rest)
      | take b h h' =>
        cases rest with
        | nil => exact fail arg [] h
        | cons value rest => exact take arg value rest b h' (reading_induction nil dashes add take fail rest)
      | fail h => exact fail arg rest fun a => h a rest
termination_by args => args.length
decreasing_by
  · exact Nat.lt_succ_self _
  · exact Nat.lt_succ_of_lt (Nat.lt_succ_self _)

section

variable {a b : Arguments} {args front rest : List String}

theorem read_nil (a : Arguments) : a.read [] = some a := by
  rw [read.eq_def]

/-- After two dashes every argument is a line. -/
theorem read_dashes (a : Arguments) (rest : List String) :
    a.read ("--" :: rest) = some { a with lines := a.lines ++ rest } := by
  rw [read.eq_def]
  rfl

/-- Arguments in front, none of them the two dashes, are read to their end before those after them. -/
theorem read_append (hfront : "--" ∉ front) (h : a.read front = some b) (rest : List String) :
    a.read (front ++ rest) = b.read rest := by
  induction front using reading_induction generalizing a with
  | nil =>
    rw [read_nil] at h
    rw [List.nil_append, Option.some.inj h]
  | dashes front => exact absurd List.mem_cons_self hfront
  | add arg front c hread ih =>
    rw [hread] at h
    rw [List.cons_append, hread, ih (List.not_mem_of_not_mem_cons hfront) h]
  | take arg value front c hread ih =>
    rw [hread] at h
    rw [List.cons_append, List.cons_append, hread,
      ih (List.not_mem_of_not_mem_cons (List.not_mem_of_not_mem_cons hfront)) h]
  | fail arg front hread =>
    rw [hread] at h
    cases h

/-! ## Switches without a value -/

/-- The switches that show more of an evaluation, by each of their spellings. -/
def showing : List (String × Switch) :=
  [("--tokens", .tokens), ("-t", .tokens), ("--tree", .tree), ("--verbose", .verbose), ("-v", .verbose)]

/-- A switch for showing something is turned on, wherever it stands. -/
theorem read_showing {name : String} {s : Switch} (h : (name, s) ∈ showing) (a : Arguments) (rest : List String) :
    a.read (name :: rest) = (a.turnOn "" s).read rest := by
  rw [read.eq_def]
  simp only [showing, List.mem_cons, Prod.mk.injEq, List.not_mem_nil, or_false] at h
  rcases h with ⟨rfl, rfl⟩ | ⟨rfl, rfl⟩ | ⟨rfl, rfl⟩ | ⟨rfl, rfl⟩ | ⟨rfl, rfl⟩ <;> rfl

/-- Arguments that are such switches, in any order and number, turn them on and say nothing else. -/
theorem exists_read_showing (h : ∀ arg ∈ args, arg ∈ showing.map Prod.fst) (a : Arguments) :
    ∃ tokens tree verbose, a.read args = some { a with tokens := tokens, tree := tree, verbose := verbose } := by
  induction args generalizing a with
  | nil => exact ⟨_, _, _, read_nil a⟩
  | cons arg args ih =>
    obtain ⟨harg, hargs⟩ := List.forall_mem_cons.1 h
    obtain ⟨⟨name, s⟩, hs, rfl⟩ := List.mem_map.1 harg
    obtain ⟨tokens, tree, verbose, hread⟩ := ih hargs (a.turnOn "" s)
    refine ⟨tokens, tree, verbose, ?_⟩
    rw [read_showing hs, hread]
    simp only [showing, List.mem_cons, Prod.mk.injEq, List.not_mem_nil, or_false] at hs
    rcases hs with ⟨-, rfl⟩ | ⟨-, rfl⟩ | ⟨-, rfl⟩ | ⟨-, rfl⟩ | ⟨-, rfl⟩ <;> rfl

/-- The switch that shows every event, turned on before some arguments, is on after them, and nothing else is different. -/
theorem read_loud (a : Arguments) (args : List String) :
    (a.turnOn "" .verbose).read args = (a.read args).map fun b => b.turnOn "" .verbose := by
  have hadd : ∀ a b : Arguments, (a.turnOn "" .verbose).followedBy b = (a.followedBy b).turnOn "" .verbose := by
    intro a b
    simp [turnOn, followedBy]
  induction args using reading_induction generalizing a with
  | nil => rw [read_nil, read_nil, Option.map_some]
  | dashes rest =>
    rw [read_dashes, read_dashes]
    rfl
  | add arg rest b hread ih => rw [hread, hread, hadd, ih]
  | take arg value rest b hread ih =>
    rw [hread, hread, hadd, ← ih]
    rfl
  | fail arg rest hread =>
    rw [hread, hread]
    rfl

end

end Arguments

end Reckoner

import Courier.Proofs.Config.Variables

/-!
# The environment and the file, merged

Loading a file goes line by line, and each line may read what the lines before it have set.  What
comes of it is a merge (`merged`): a key has its value of the environment, or else the first one
that the file assigns to it.  Here the assignments are those of the lines in front of the first
malformed one, each of them read in the merge of what stands before it (`Assigns`).

While the lines are carried out, the environment is that merge at every place (`Follows`), and the
values that the file assigned later are never asked for, since their keys are set already.  So the
worker is configured by the merge, and a malformed line ends the loading but fails nothing
(`ofEnvironment_eq_ofLookup_merged`).
-/

namespace Courier

open EnvFile

namespace EnvFile

variable {env now earlier : Environment} {assigned : List (String × String)}
  {lines rest : List (Option (List Char))} {key value : String}

/-! ### Merging -/

/-- The value of a key in an environment, or else the first one assigned to it. -/
def merged (env : Environment) (assigned : List (String × String)) (key : String) : Option String :=
  (env.get? key).or (assigned.lookup key)

/-- What a logical line says, where names have the given values.  A text that ends inside a line
ends in a malformed one. -/
def statement (values : String → Option String) : Option (List Char) → Statement
  | none => .malformed
  | some line => readLine (fun name => (values name).getD "") line

/-- Well-formed lines, and their assignments in order. -/
inductive Assigns (env : Environment) :
    List (Option (List Char)) → List (String × String) → Prop where
  | nil : Assigns env [] []
  | nothing {lines : List (Option (List Char))} {assigned : List (String × String)}
    {line : Option (List Char)} (h : Assigns env lines assigned)
    (hline : statement (merged env assigned) line = .nothing) :
    Assigns env (lines ++ [line]) assigned
  | assignment {lines : List (Option (List Char))} {assigned : List (String × String)}
    {line : Option (List Char)} {key value : String} (h : Assigns env lines assigned)
    (hline : statement (merged env assigned) line = .assignment key value) :
    Assigns env (lines ++ [line]) (assigned ++ [(key, value)])

/-- The assignments of a file are those in front of its first malformed line. -/
def AssignsUpToFault (env : Environment) (file : String) (assigned : List (String × String)) :
    Prop :=
  ∃ lines rest, logicalLines file = lines ++ rest ∧ Assigns env lines assigned ∧
    ∀ line ∈ rest.head?, statement (merged env assigned) line = .malformed

/-! ### Carrying out lines -/

/-- The state of the loading after some assignments: the environment is the merge, and has every key
that the file assigned. -/
structure Follows (env : Environment) (assigned : List (String × String))
    (now earlier : Environment) : Prop where
  get?_eq : now.get? = merged env assigned
  isSome : ∀ key, (earlier.get? key).isSome → (now.get? key).isSome

theorem follows_nil : Follows env [] env .empty where
  get?_eq := by
    funext key
    exact (Option.or_none).symm
  isSome _ h := by cases h

/-- A name is replaced by its value in the merge: the environment comes first, and it has every key
that the file assigned. -/
theorem Follows.substitute (h : Follows env assigned now earlier) :
    substitute now earlier = fun name => (merged env assigned name).getD "" := by
  funext name
  rw [EnvFile.substitute, ← h.get?_eq]
  cases hnow : now.get? name with
  | some value => rfl
  | none =>
    cases hearlier : earlier.get? name with
    | none => rfl
    | some value =>
      have := h.isSome name (by rw [hearlier]; rfl)
      rw [hnow] at this
      cases this

/-- An assignment sets its key if nothing has set it yet, and so does the merge. -/
theorem Follows.setNew (h : Follows env assigned now earlier) (key value : String) :
    Follows env (assigned ++ [(key, value)]) (setNew now key value) (earlier.insert key value) where
  get?_eq := by
    funext name
    have hlast : [(key, value)].lookup name = if name = key then some value else none := by
      by_cases hname : name = key
      · rw [hname, List.lookup_cons_self, if_pos rfl]
      · rw [Dictionary.lookup_cons_of_ne hname, if_neg hname, List.lookup_nil]
    rw [get?_setNew, h.get?_eq, merged, merged, List.lookup_append, hlast, Option.or_assoc]
  isSome name hname := by
    rw [get?_setNew, Option.isSome_or, Bool.or_eq_true]
    by_cases hkey : name = key
    · exact .inr (by rw [if_pos hkey]; rfl)
    · rw [Dictionary.get?_insert_of_ne hkey] at hname
      exact .inl (h.isSome name hname)

/-- A line is read in the merge, and a malformed one ends the loading. -/
theorem Follows.loadLines_cons (h : Follows env assigned now earlier) (line : Option (List Char))
    (rest : List (Option (List Char))) :
    loadLines now earlier (line :: rest) =
      match statement (merged env assigned) line with
      | .malformed => now
      | .nothing => loadLines now earlier rest
      | .assignment key value =>
        loadLines (EnvFile.setNew now key value) (earlier.insert key value) rest := by
  cases line with
  | none => rfl
  | some cs =>
    rw [loadLines, h.substitute]
    rfl

theorem Follows.loadLines_fault (h : Follows env assigned now earlier)
    (hrest : ∀ line ∈ rest.head?, statement (merged env assigned) line = .malformed) :
    loadLines now earlier rest = now := by
  cases rest with
  | nil => rfl
  | cons line rest => rw [h.loadLines_cons, hrest line rfl]

/-- Well-formed lines are carried out up to a state that follows their assignments. -/
theorem Assigns.exists_follows (h : Assigns env lines assigned) :
    ∃ now earlier, Follows env assigned now earlier ∧
      ∀ rest, loadLines env .empty (lines ++ rest) = loadLines now earlier rest := by
  induction h with
  | nil => exact ⟨env, .empty, follows_nil, fun _ => rfl⟩
  | nothing _ hline ih =>
    obtain ⟨now, earlier, hfollows, hload⟩ := ih
    refine ⟨now, earlier, hfollows, fun rest => ?_⟩
    rw [List.append_assoc, hload, List.singleton_append, hfollows.loadLines_cons, hline]
  | assignment _ hline ih =>
    obtain ⟨now, earlier, hfollows, hload⟩ := ih
    refine ⟨_, _, hfollows.setNew _ _, fun rest => ?_⟩
    rw [List.append_assoc, hload, List.singleton_append, hfollows.loadLines_cons, hline]

/-- Every list of lines is well-formed up to its first malformed line. -/
theorem Assigns.exists_fault (h : Assigns env lines assigned) (rest : List (Option (List Char))) :
    ∃ more rest' assigned', rest = more ++ rest' ∧ Assigns env (lines ++ more) assigned' ∧
      ∀ line ∈ rest'.head?, statement (merged env assigned') line = .malformed := by
  induction rest generalizing lines assigned with
  | nil => exact ⟨[], [], assigned, rfl, (List.append_nil lines).symm ▸ h, nofun⟩
  | cons line rest ih =>
    cases hline : statement (merged env assigned) line with
    | malformed =>
      refine ⟨[], line :: rest, assigned, rfl, (List.append_nil lines).symm ▸ h, ?_⟩
      rintro _ ⟨⟩
      exact hline
    | nothing =>
      obtain ⟨more, rest', assigned', rfl, hmore, hfault⟩ := ih (h.nothing hline)
      rw [List.append_assoc] at hmore
      exact ⟨line :: more, rest', assigned', rfl, hmore, hfault⟩
    | assignment key value =>
      obtain ⟨more, rest', assigned', rfl, hmore, hfault⟩ := ih (h.assignment hline)
      rw [List.append_assoc] at hmore
      exact ⟨line :: more, rest', assigned', rfl, hmore, hfault⟩

theorem exists_assignsUpToFault (env : Environment) (file : String) :
    ∃ assigned, AssignsUpToFault env file assigned := by
  obtain ⟨lines, rest, assigned, hlines, h, hfault⟩ :=
    (Assigns.nil : Assigns env [] []).exists_fault (logicalLines file)
  exact ⟨assigned, lines, rest, hlines, h, hfault⟩

/-- Loading a file is merging its assignments into the environment. -/
theorem get?_load_eq_merged {file : String} (h : AssignsUpToFault env file assigned) :
    (load env file).get? = merged env assigned := by
  obtain ⟨lines, rest, hlines, hassigns, hfault⟩ := h
  obtain ⟨now, earlier, hfollows, hload⟩ := hassigns.exists_follows
  rw [load, hlines, hload, hfollows.loadLines_fault hfault, hfollows.get?_eq]

end EnvFile

namespace Config

/-- **A worker is configured by the merge of its environment and the file.**  Every file has
assignments up to its first malformed line, and loading it does no more than merge them into the
environment: what the environment has stays as it is, and the worker fails to be configured only for
the grace period of the merge. -/
theorem ofEnvironment_eq_ofLookup_merged (env : Environment) (file : String) :
    (∃ assigned, AssignsUpToFault env file assigned) ∧
    ∀ assigned, AssignsUpToFault env file assigned →
      (load env file).get? = merged env assigned ∧
      ofEnvironment env file = ofLookup (merged env assigned) ∧
      ((∃ e, ofEnvironment env file = .error e) ↔
        ∃ value, merged env assigned "SHUTDOWN_GRACE_SECONDS" = some value ∧ value ≠ "" ∧
          ¬∃ n < wordBound, IsNumeral value n) ∧
      ∀ key value, env.get? key = some value → (load env file).get? key = some value := by
  refine ⟨exists_assignsUpToFault env file, fun assigned hassigned => ?_⟩
  have heq : ofEnvironment env file = ofLookup (merged env assigned) := by
    rw [ofEnvironment, get?_load_eq_merged hassigned]
  refine ⟨get?_load_eq_merged hassigned, heq, ?_, fun key value => get?_load file⟩
  rw [heq, exists_ofLookup_eq_error_iff]

/-- A key that comes twice, one that the environment has, and a value of two lines that reads both,
in front of a malformed line and of a grace period that is no number. -/
theorem ofEnvironment_eq_ofLookup_merged_broken :
    let env : Environment := Dictionary.empty.insert "NODE_NAME" "node-1"
    let file := "POD_NAME=a\nPOD_NAME=b\nNODE_NAME=c\n" ++
      "POD_NAMESPACE=\"$\x7bPOD_NAME\x7d\n$\x7bNODE_NAME\x7d\"\nno assignment\n" ++
      "SHUTDOWN_GRACE_SECONDS=soon"
    let assigned := [("POD_NAME", "a"), ("POD_NAME", "b"), ("NODE_NAME", "c"),
      ("POD_NAMESPACE", "a\nnode-1")]
    AssignsUpToFault env file assigned ∧
      ofEnvironment env file = ofLookup (merged env assigned) ∧
      ofEnvironment env file =
        .ok { podName := "a", podNamespace := "a\nnode-1", nodeName := "node-1" } := by
  intro env file assigned
  let first := some "POD_NAME=a".toList
  let again := some "POD_NAME=b".toList
  let taken := some "NODE_NAME=c".toList
  let both := some "POD_NAMESPACE=\"$\x7bPOD_NAME\x7d\n$\x7bNODE_NAME\x7d\"".toList
  let fault := some "no assignment".toList
  let behind := some "SHUTDOWN_GRACE_SECONDS=soon".toList
  have hlines : logicalLines file = [first, again, taken, both] ++ [fault, behind] := by
    decide +kernel
  have hfirst : statement (merged env (assigned.take 0)) first = .assignment "POD_NAME" "a" := by
    decide +kernel
  have hagain : statement (merged env (assigned.take 1)) again = .assignment "POD_NAME" "b" := by
    decide +kernel
  have htaken : statement (merged env (assigned.take 2)) taken = .assignment "NODE_NAME" "c" := by
    decide +kernel
  have hboth : statement (merged env (assigned.take 3)) both =
      .assignment "POD_NAMESPACE" "a\nnode-1" := by
    decide +kernel
  have hfault : statement (merged env assigned) fault = .malformed := by decide +kernel
  have h : AssignsUpToFault env file assigned := by
    refine ⟨_, _, hlines, ?_, ?_⟩
    · exact (((Assigns.nil.assignment hfirst).assignment hagain).assignment htaken).assignment hboth
    · rintro _ ⟨⟩
      exact hfault
  have hmerged := ((ofEnvironment_eq_ofLookup_merged env file).2 assigned h).2.1
  exact ⟨h, hmerged, hmerged.trans rfl⟩

end Config

end Courier

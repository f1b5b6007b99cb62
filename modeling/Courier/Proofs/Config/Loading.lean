import Courier.Config.EnvFile

/-!
# A variable that is set but empty

A configuration depends on the settings of its variables (`setting`, `ofLookup_congr`): an empty
value counts as none.  The file beside the worker is loaded before, and there a key that the
environment has keeps its value, an empty one as well (`get?_setNew`, `get?_load`).

So the two readings of "unset" differ.  Take an environment without a variable, and beside it the
one that has it empty.  As long as the file gives the variable no value, or an empty one, the two
load the same for all other keys: at each line they agree apart from the variable
(`AgreesApart.setNew`), and a line that substitutes the variable gets nothing in both.  Then the
configurations are the same.  A value from the file reaches only the environment without the
variable (`ofEnvironment_insert_empty`).
-/

namespace Courier

open EnvFile

/-! ### Settings -/

namespace Config

/-- What a lookup says about a variable; an empty value says nothing. -/
def setting (lookup : String → Option String) (v : Variable) : Option String :=
  nonEmpty (lookup v.name)

/-- A configuration depends on the settings of its variables only. -/
theorem ofLookup_congr {lookup lookup' : String → Option String}
    (h : setting lookup = setting lookup') : ofLookup lookup = ofLookup lookup' := by
  have hv : ∀ v : Variable, nonEmpty (lookup v.name) = nonEmpty (lookup' v.name) := congrFun h
  simp only [ofLookup, hv]

end Config

/-! ### A key keeps its first value -/

namespace EnvFile

variable {env blank earlier : Environment} {name key value : String}

theorem get?_setNew (env : Environment) (key value name : String) :
    (setNew env key value).get? name =
      (env.get? name).or (if name = key then some value else none) := by
  unfold setNew Dictionary.contains
  split
  · rename_i hkey
    obtain ⟨x, hx⟩ := Option.isSome_iff_exists.1 hkey
    by_cases hname : name = key
    · rw [hname, hx, Option.some_or]
    · rw [if_neg hname, Option.or_none]
  · rename_i hkey
    rw [Dictionary.get?_insert]
    by_cases hname : name = key
    · rw [if_pos hname, if_pos hname, hname, Option.not_isSome_iff_eq_none.1 hkey, Option.none_or]
    · rw [if_neg hname, if_neg hname, Option.or_none]

theorem get?_loadLines {lines : List (Option (List Char))} (h : env.get? name = some value) :
    (loadLines env earlier lines).get? name = some value := by
  fun_induction loadLines env earlier lines with
  | case1 | case2 | case3 => exact h
  | case4 _ _ _ _ _ ih => exact ih h
  | case5 _ _ _ _ _ _ _ ih => exact ih (by rw [get?_setNew, h, Option.some_or])

/-- A key of the environment keeps its value, whatever the file says. -/
theorem get?_load (file : String) (h : env.get? name = some value) :
    (load env file).get? name = some value :=
  get?_loadLines h

/-! ### An empty value beside no value -/

/-- Two environments agree apart from a name, which is empty in the second one; in the first one it
is empty too, or neither there nor assigned earlier in the file. -/
structure AgreesApart (name : String) (earlier env blank : Environment) : Prop where
  others : ∀ key, key ≠ name → blank.get? key = env.get? key
  empty : blank.get? name = some ""
  unset : env.get? name = some "" ∨ env.get? name = none ∧ earlier.get? name = none

/-- An empty value is substituted as no value is. -/
theorem AgreesApart.substitute (h : AgreesApart name earlier env blank) :
    substitute blank earlier = substitute env earlier := by
  funext key
  by_cases hkey : key = name
  · subst hkey
    obtain hempty | ⟨hnone, hearlier⟩ := h.unset
    · simp only [EnvFile.substitute, h.empty, hempty]
    · simp only [EnvFile.substitute, h.empty, hnone, hearlier, Option.some_or, Option.none_or,
        Option.getD_some, Option.getD_none]
  · simp only [EnvFile.substitute, h.others key hkey]

theorem AgreesApart.setNew (h : AgreesApart name earlier env blank)
    (hvalue : key = name → env.get? name = none → value = "") :
    AgreesApart name (earlier.insert key value) (setNew env key value)
      (setNew blank key value) where
  others k hk := by rw [get?_setNew, get?_setNew, h.others k hk]
  empty := by rw [get?_setNew, h.empty, Option.some_or]
  unset := by
    obtain hempty | ⟨hnone, hearlier⟩ := h.unset
    · exact .inl (by rw [get?_setNew, hempty, Option.some_or])
    · by_cases hkey : name = key
      · refine .inl ?_
        rw [get?_setNew, hnone, Option.none_or, if_pos hkey, hvalue hkey.symm hnone]
      · refine .inr ⟨?_, ?_⟩
        · rw [get?_setNew, hnone, Option.none_or, if_neg hkey]
        · rw [Dictionary.get?_insert_of_ne hkey, hearlier]

/-- Lines that leave the name without a value do the same to both environments. -/
theorem AgreesApart.get?_loadLines {lines : List (Option (List Char))}
    (h : AgreesApart name earlier env blank)
    (hunset : nonEmpty ((loadLines env earlier lines).get? name) = none) (hkey : key ≠ name) :
    (loadLines blank earlier lines).get? key = (loadLines env earlier lines).get? key := by
  fun_induction loadLines env earlier lines generalizing blank with
  | case1 | case2 => exact h.others key hkey
  | case3 env earlier line lines hline =>
    rw [← h.substitute] at hline
    simpa only [loadLines, hline] using h.others key hkey
  | case4 env earlier line lines hline ih =>
    rw [← h.substitute] at hline
    simpa only [loadLines, hline] using ih h hunset
  | case5 env earlier line lines assigned value hline ih =>
    rw [← h.substitute] at hline
    have hvalue : assigned = name → env.get? name = none → value = "" := by
      -- A value that is set now is still there at the end, so it is empty.
      intro hname hnone
      have hset : (EnvFile.setNew env assigned value).get? name = some value := by
        rw [get?_setNew, hnone, Option.none_or, if_pos hname.symm]
      rw [EnvFile.get?_loadLines hset] at hunset
      simpa [nonEmpty] using hunset
    simpa only [loadLines, hline] using ih (h.setNew hvalue) hunset

theorem agreesApart_insert (h : env.get? name = none) :
    AgreesApart name .empty env (env.insert name "") where
  others _ hkey := Dictionary.get?_insert_of_ne hkey ""
  empty := Dictionary.get?_insert_self env name ""
  unset := .inr ⟨h, Dictionary.get?_empty name⟩

end EnvFile

/-! ### Configurations -/

namespace Config

variable {v : Variable} {env : Environment}

/-- A variable that the environment has empty is unset, whatever the file says. -/
theorem setting_load_insert (v : Variable) (env : Environment) (file : String) :
    setting (load (env.insert v.name "") file).get? v = none := by
  have hempty := get?_load file (Dictionary.get?_insert_self env v.name "")
  simp [setting, hempty, nonEmpty]

/-- The settings are those of the environment without the variable exactly if the file gives it no
value there. -/
theorem setting_load_insert_eq_iff (file : String) (h : env.get? v.name = none) :
    setting (load (env.insert v.name "") file).get? = setting (load env file).get? ↔
      setting (load env file).get? v = none := by
  constructor
  · intro heq
    rw [← heq, setting_load_insert]
  · intro hunset
    funext u
    by_cases hu : u.name = v.name
    · have hsame : ∀ lookup, setting lookup u = setting lookup v := fun lookup => by
        rw [setting, setting, hu]
      rw [hsame, hsame, setting_load_insert, hunset]
    · exact congrArg nonEmpty ((agreesApart_insert h).get?_loadLines hunset hu)

/-- **A variable that is set but empty**: it is unset whatever the file says, so the worker is
configured as without the variable wherever the file has no value for it, and only there with the
same settings. -/
theorem ofEnvironment_insert_empty (file : String) (h : env.get? v.name = none) :
    setting (load (env.insert v.name "") file).get? v = none ∧
    (setting (load (env.insert v.name "") file).get? = setting (load env file).get? ↔
      setting (load env file).get? v = none) ∧
    (setting (load env file).get? v = none →
      ofEnvironment (env.insert v.name "") file = ofEnvironment env file) :=
  ⟨setting_load_insert v env file, setting_load_insert_eq_iff file h,
    fun hunset => ofLookup_congr ((setting_load_insert_eq_iff file h).2 hunset)⟩

/-- A file that gives the variable an empty value and substitutes it. -/
theorem ofEnvironment_insert_empty_queue :
    (Dictionary.empty : Environment).get? Variable.queue.name = none ∧
    setting (load .empty "WORKER_QUEUE=\nPOD_NAME=a$WORKER_QUEUE").get? .queue = none ∧
    ofEnvironment (Dictionary.empty.insert Variable.queue.name "")
        "WORKER_QUEUE=\nPOD_NAME=a$WORKER_QUEUE" =
      ofEnvironment .empty "WORKER_QUEUE=\nPOD_NAME=a$WORKER_QUEUE" := by
  have h : (Dictionary.empty : Environment).get? Variable.queue.name = none := rfl
  have hunset :
      setting (load .empty "WORKER_QUEUE=\nPOD_NAME=a$WORKER_QUEUE").get? .queue = none := rfl
  exact ⟨h, hunset, (ofEnvironment_insert_empty _ h).2.2 hunset⟩

/-- The file's value reaches a worker without the variable, and no worker that has it empty. -/
theorem ofEnvironment_insert_empty_ne :
    ofEnvironment .empty "WORKER_QUEUE=emails" = .ok { queue := "emails" } ∧
    ofEnvironment (Dictionary.empty.insert Variable.queue.name "") "WORKER_QUEUE=emails" =
      .ok {} ∧
    ofEnvironment (Dictionary.empty.insert Variable.queue.name "") "WORKER_QUEUE=emails" ≠
      ofEnvironment .empty "WORKER_QUEUE=emails" := by
  have hunset : ofEnvironment .empty "WORKER_QUEUE=emails" = .ok { queue := "emails" } := rfl
  have hempty : ofEnvironment (Dictionary.empty.insert Variable.queue.name "")
      "WORKER_QUEUE=emails" = .ok {} := rfl
  refine ⟨hunset, hempty, ?_⟩
  rw [hunset, hempty]
  simp

end Config

end Courier

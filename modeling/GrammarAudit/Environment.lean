import GrammarAudit.Path

/-!
# Environment variables and base directories

The directories that a program keeps its data in follow from the environment:
the XDG variables name them where they hold an absolute path, otherwise they
have fixed places below the home directory.

* `Environment.set` and `Environment.unset` change one variable; `get?_set` and
  `get?_unset` say what is looked up afterwards.
* `Environment.baseDirectory?` is the rule for the base directories.
-/

namespace GrammarAudit

/-- Environment variables, the first of two of one name counting. -/
structure Environment where
  settings : List (String × String)
deriving Repr

namespace Environment

/-- The value of a variable, if it is set. -/
def get? (env : Environment) (name : String) : Option String := env.settings.lookup name

/-- The environment without a variable. -/
def unset (env : Environment) (name : String) : Environment :=
  ⟨env.settings.filter (·.1 != name)⟩

/-- The environment with a variable set. -/
def set (env : Environment) (name value : String) : Environment :=
  ⟨(name, value) :: (env.unset name).settings⟩

/-- Without a variable, every other one is as it was. -/
@[simp] theorem get?_unset (env : Environment) (name other : String) :
    (env.unset name).get? other = if other = name then none else env.get? other := by
  unfold get? unset
  induction env.settings with
  | nil => simp
  | cons setting rest ih =>
      by_cases hkey : setting.1 = name
      · grind
      · grind

/-- After a variable has been set it has its value, and every other one is as it
was. -/
@[simp] theorem get?_set (env : Environment) (name value other : String) :
    (env.set name value).get? other = if other = name then some value else env.get? other := by
  have hset : (env.set name value).get? other
      = if other = name then some value else (env.unset name).get? other := by
    unfold get? set
    grind
  rw [hset, get?_unset]
  by_cases hother : other = name
  · simp [hother]
  · simp [hother]

/-- Taking away a variable that is not set changes nothing. -/
theorem unset_of_get?_eq_none {env : Environment} {name : String} (h : env.get? name = none) :
    env.unset name = env := by
  have hkeep : env.settings.filter (·.1 != name) = env.settings := by
    apply List.filter_eq_self.mpr
    intro setting hmem
    have hne : (name != setting.1) = true := List.lookup_eq_none_iff.mp h setting hmem
    rw [bne_comm]
    exact hne
  unfold unset
  rw [hkeep]

/-- The home directory, if it is known: the variable counts unless it is empty.
The entry of the user in the system's accounts, which is asked for a home
directory without the variable, is left out; there is none then. -/
def home? (env : Environment) : Option Path :=
  match env.get? "HOME" with
  | some value => if value.isEmpty then none else some ⟨value⟩
  | none => none

/-- A base directory: the value of a variable if that is an absolute path,
otherwise a place below the home directory. -/
def baseDirectory? (env : Environment) (name below : String) : Option Path :=
  match env.get? name with
  | some value =>
    if (Path.mk value).isAbsolute then some ⟨value⟩ else env.home?.map (·.join ⟨below⟩)
  | none => env.home?.map (·.join ⟨below⟩)

/-- The user's directory for data that can be made again. -/
def cacheDirectory? (env : Environment) : Option Path :=
  env.baseDirectory? "XDG_CACHE_HOME" ".cache"

/-- The user's directory for settings. -/
def configDirectory? (env : Environment) : Option Path :=
  env.baseDirectory? "XDG_CONFIG_HOME" ".config"

/-- The user's directory for data. -/
def dataDirectory? (env : Environment) : Option Path :=
  env.baseDirectory? "XDG_DATA_HOME" ".local/share"

end Environment

end GrammarAudit

import SubscriptionGateway.Proofs.Settings.Layers

/-! What the environment does to settings. A variable that holds something acceptable gives its
setting a value that the server can run with; every other setting is left alone. -/
namespace SubscriptionGateway

namespace Setting

variable {α : Type} {x : Setting α} {env : Environment} {found : Option α} {s : Settings}

def ranges : List (Setting Nat × Allowed) :=
  [(port, ⟨1, 65535⟩), (maxConnections, ⟨1, 1000000⟩), (initTimeoutMs, ⟨1, 3600000⟩),
    (keepAliveMs, ⟨0, 3600000⟩), (outboundBuffer, ⟨1, 1000000⟩),
    (maxMessageSize, ⟨1024, 268435456⟩), (closeTimeoutMs, ⟨1, 600000⟩)]

theorem bounds_of_named {x : Setting Nat} {name : String} {least most n : Nat}
    (named : (x.within name least most).Named env n) : least ≤ n ∧ n ≤ most := by
  obtain ⟨_, text, _, _, numeral, bounds⟩ := named
  exact bounds

theorem ne_zero_of_named {x : Setting Nat} {name : String} {least most n : Nat}
    (named : (x.within name (least + 1) most).Named env n) : n ≠ 0 := by
  have bounds := bounds_of_named named
  omega

theorem bounds_of_ranges :
    ∀ r ∈ ranges, ∀ n, r.1.Named env n → r.2.least ≤ n ∧ n ≤ r.2.most := by
  simp only [ranges, List.forall_mem_cons, List.not_mem_nil, false_implies, implies_true, and_true]
  refine ⟨?_, ?_, ?_, ?_, ?_, ?_, ?_⟩ <;> exact fun n named => bounds_of_named named

theorem ranges_subset_all : ∀ r ∈ ranges, (⟨Nat, r.1⟩ : Sigma Setting) ∈ all := by
  simp [ranges, all]

theorem absolute_of_named {value : String} (named : path.Named env value) :
    isAbsolutePath value = true := by
  obtain ⟨_, text, _, _, rfl, absolute⟩ := named
  exact absolute

namespace Overrides

theorem get_of_named (overrides : x.Overrides env found) {value : α}
    (named : x.Named env value) : x.get (s.override env) = value := by
  rw [overrides.get, (overrides.named value).mp named]
  rfl

theorem get_of_unnamed (overrides : x.Overrides env found)
    (unnamed : ∀ value, ¬ x.Named env value) : x.get (s.override env) = x.get s := by
  have absent : found = none := by
    apply Option.eq_none_iff_forall_ne_some.mpr
    intro value isFound
    exact unnamed value ((overrides.named value).mpr isFound)
  rw [overrides.get, absent]
  rfl

theorem get_override_override (overrides : x.Overrides env found) :
    x.get ((s.override env).override env) = x.get (s.override env) := by
  rw [overrides.get, overrides.get]
  cases found <;> rfl

/-- What holds of every value that the variable may give, and of the setting as it is, holds of the
setting under the environment. -/
theorem keeps (overrides : x.Overrides env found) {P : α → Prop}
    (named : ∀ value, x.Named env value → P value) (kept : P (x.get s)) :
    P (x.get (s.override env)) := by
  by_cases given : ∃ value, x.Named env value
  · obtain ⟨value, isNamed⟩ := given
    rw [overrides.get_of_named isNamed]
    exact named value isNamed
  · rw [overrides.get_of_unnamed (not_exists.mp given)]
    exact kept

end Overrides

end Setting

namespace Settings

open Setting

variable {s : Settings} {env : Environment}

theorem validate_eq_ok_iff (s : Settings) : s.validate = .ok () ↔ s.Runnable := by
  rw [← fault?_eq_none_iff, validate]
  cases s.fault? <;> simp

theorem override_override (s : Settings) (env : Environment) :
    (s.override env).override env = s.override env := by
  apply eq_of_get_eq
  intro x member
  obtain ⟨found, overrides⟩ := exists_overrides env x member
  exact overrides.get_override_override

theorem Runnable.override (runnable : s.Runnable) (env : Environment) :
    (s.override env).Runnable := by
  obtain ⟨-, -, ⟨_, path⟩, ⟨_, most⟩, -, ⟨_, init⟩, -, ⟨_, buffer⟩, -, ⟨_, close⟩, -, -⟩ :=
    forall_all_iff.mp (exists_overrides env)
  constructor
  · exact path.keeps (P := fun path => isAbsolutePath path = true)
      (fun value named => absolute_of_named named) runnable.absolute
  · exact most.keeps (P := (· ≠ 0)) (fun n named => ne_zero_of_named named) runnable.connections
  · exact init.keeps (P := (· ≠ 0)) (fun n named => ne_zero_of_named named) runnable.initTimeout
  · exact close.keeps (P := (· ≠ 0)) (fun n named => ne_zero_of_named named) runnable.closeTimeout
  · exact buffer.keeps (P := (· ≠ 0)) (fun n named => ne_zero_of_named named)
      runnable.outboundBuffer

/-- Without a file there are always settings, whatever the environment holds. -/
theorem load_absent (env : Environment) : load .absent env = .ok (default.override env) := by
  have read : ofSource .absent = .ok default := by
    rw [ofSource, ofJson, decode_toJson_default]
    rfl
  have runnable := ((fault?_eq_none_iff default).mp fault?_default).override env
  rw [load_of_ok env read, (fault?_eq_none_iff _).mpr runnable]

/-- The environment over settings that the server can run with, whatever its variables hold: the
result is again such. A setting whose variable holds something acceptable has the value that this
stands for, and a number then lies within the bounds of its variable; a setting whose variable is
unset or holds anything else, or that has no variable, is as it was. Nothing changes when the same
environment is laid over the result. -/
theorem override_keeps_valid (valid : s.validate = .ok ()) (env : Environment) :
    (s.override env).validate = .ok () ∧
    (∀ x ∈ all, ∀ value, x.2.Named env value → x.2.get (s.override env) = value) ∧
    (∀ x ∈ all, (∀ value, ¬ x.2.Named env value) → x.2.get (s.override env) = x.2.get s) ∧
    (∀ r ∈ ranges, ∀ n, r.1.Named env n →
      r.2.least ≤ r.1.get (s.override env) ∧ r.1.get (s.override env) ≤ r.2.most) ∧
    (s.override env).override env = s.override env := by
  have runnable := (validate_eq_ok_iff s).mp valid
  have given : ∀ x ∈ all, ∀ value, x.2.Named env value → x.2.get (s.override env) = value := by
    intro x member value named
    obtain ⟨found, overrides⟩ := exists_overrides env x member
    exact overrides.get_of_named named
  refine ⟨(validate_eq_ok_iff _).mpr (runnable.override env), given, ?_, ?_,
    override_override s env⟩
  · intro x member unnamed
    obtain ⟨found, overrides⟩ := exists_overrides env x member
    exact overrides.get_of_unnamed unnamed
  · intro r member n named
    have same : r.1.get (s.override env) = n := given _ (ranges_subset_all r member) n named
    rw [same]
    exact bounds_of_ranges r member n named

/-- An environment in which most variables hold nothing acceptable: the empty text, digits that are
not of ASCII, a relative path, a number above every word, a negative one, one out of bounds, one
behind a blank. -/
def unruly : Environment := fun name =>
  List.lookup name [("GQLWS_HOST", ""), ("GQLWS_PORT", "٤٠٠٠"), ("GQLWS_PATH", "graphql"),
    ("GQLWS_MAX_CONNECTIONS", "+12"), ("GQLWS_INIT_TIMEOUT_MS", "18446744073709551617"),
    ("GQLWS_KEEP_ALIVE_MS", "-1"), ("GQLWS_OUTBOUND_BUFFER", "0"),
    ("GQLWS_MAX_MESSAGE_SIZE", " 4096"), ("GQLWS_LOG_LEVEL", "dëbug"), ("GQLWS_LOG_JSON", "YES")]

/-- The theorem at the defaults under this environment. -/
theorem override_of_unruly :
    default.validate = .ok () ∧ (default.override unruly).validate = .ok () ∧
      default.override unruly =
        { server := { ServerSettings.default with maxConnections := 12 }
          websocket := WebSocketSettings.default
          logging := ⟨"dëbug", true⟩ } := by
  have valid : default.validate = .ok () := (validate_eq_ok_iff _).mpr
    ((fault?_eq_none_iff _).mp fault?_default)
  exact ⟨valid, (override_keeps_valid valid unruly).1, by decide +kernel⟩

end Settings

end SubscriptionGateway

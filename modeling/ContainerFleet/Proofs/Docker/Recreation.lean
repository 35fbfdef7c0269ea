import ContainerFleet.Proofs.Docker.Inspection

/-!
Containers that are created anew again and again, each from the inspection of the one before it, by a
daemon that keeps what it is given and adds what it assigns itself. Main statements:
`alike_of_createdFrom`, that an inspection of the new container leads to the settings of the old one,
and `Recreated.alike`, that they are the same after any number of times.
-/

namespace ContainerFleet

open Docker Json

namespace ContainerSpec

variable {s t u : ContainerSpec}

/-- Equal apart from the image. -/
def Alike (s t : ContainerSpec) : Prop :=
  ∀ image, Same (s.withImage image).toJson (t.withImage image).toJson

theorem alike_iff :
    Alike s t ↔ ∀ name ≠ imageName, SameOption (s.settings.get? name) (t.settings.get? name) := by
  constructor
  · intro h name hname
    have hsame := same_obj_iff.1 (h "") name
    rwa [get?_withImage s "" name hname, get?_withImage t "" name hname] at hsame
  · intro h image
    refine same_obj_iff.2 fun name => ?_
    by_cases hname : name = imageName
    · simpa [withImage, hname, Map.get?_insert_self] using .refl _
    · rw [get?_withImage s image name hname, get?_withImage t image name hname]
      exact h name hname

theorem Alike.refl (s : ContainerSpec) : Alike s s := fun _ => .refl _

theorem Alike.trans (hst : Alike s t) (htu : Alike t u) : Alike s u := fun image =>
  (hst image).trans (htu image)

/-- How a container that is created is attached to networks. -/
def endpoints (s : ContainerSpec) : Map String Json :=
  (((s.settings.get? "NetworkingConfig").bind (Json.field? "EndpointsConfig")).bind Json.obj?).getD []

end ContainerSpec

namespace Docker

open ContainerSpec

variable {v w : Json} {short id image : String}

/-- What is shown of an attachment that was given: all that the user has set, and the short id as one
more alias. Anything else may be shown besides. -/
structure Attached (short : String) (given shown : Json) : Prop where
  kept : ∀ name ∈ userFields, SameOption (shown.given? name) (given.given? name)
  extended : ∃ before after, aliases given = before ++ after ∧
    aliases shown = before ++ .str short :: after
  not_mem : .str short ∉ aliases given

/-- What is shown of a container that was created, under an id that it was assigned: all that it was
created from, and the short id where no hostname was given. -/
structure CreatedFrom (spec : ContainerSpec) (id : String) (shown : Json) : Prop where
  id_ne : id ≠ ""
  shows_id : shown.field? "Id" = some (.str id)
  config : ∀ name ∉ ["Hostname", "HostConfig", "NetworkingConfig"],
    SameOption ((shownConfig shown).get? name) (spec.settings.get? name)
  hostname : SameOption ((shownConfig shown).get? "Hostname")
    ((spec.settings.get? "Hostname").or (some (.str (shortId id))))
  hostname_ne : spec.settings.get? "Hostname" ≠ some (.str (shortId id))
  host : SameOption (shown.field? "HostConfig") (spec.settings.get? "HostConfig")
  attached : ∀ name,
    Option.Rel (Attached (shortId id)) (spec.endpoints.get? name) (Map.get? (networks shown) name)

theorem shortId_ne_empty (h : id ≠ "") : shortId id ≠ "" := by
  intro hshort
  have hnil : id.toList.take shortIdLength = [] := by
    simpa [shortId] using congrArg String.toList hshort
  rw [List.take_eq_nil_iff] at hnil
  exact h (by simpa [shortIdLength] using hnil)

/-- The short id is the one alias that is left out of those that were added to. -/
theorem Attached.portableAliases_eq (h : Attached short v w) :
    portableAliases short w = aliases v := by
  obtain ⟨before, after, hgiven, hshown⟩ := h.extended
  have hkeep : ∀ a ∈ aliases v, (a.str? != some short) = true := by
    intro a ha
    rw [bne_iff_ne, Ne, str?_eq_some_iff]
    rintro rfl
    exact h.not_mem ha
  rw [Docker.portableAliases_eq, hshown, List.filter_append,
    List.filter_cons_of_neg (by simp [Json.str?]), ← List.filter_append, ← hgiven,
    List.filter_eq_self.2 hkeep]

theorem given?_ne_null (name : String) (v : Json) : v.given? name ≠ some .null := by
  unfold given?
  split
  · simp
  · assumption

theorem given?_portableEndpoint {name : String} (hname : name ∈ userFields) (endpoint : Json) :
    (portableEndpoint short endpoint).given? name = endpoint.given? name := by
  have hfield : (portableEndpoint short endpoint).field? name = endpoint.given? name := by
    rw [portableEndpoint_eq, field?_obj_of_nodup (nodup_keys_portableFields _ _),
      get?_portableFields, if_pos hname]
  rw [given?, hfield]
  split
  · next hnull => exact absurd hnull (given?_ne_null name endpoint)
  · rfl

theorem aliases_portableEndpoint (short : String) (endpoint : Json) :
    aliases (portableEndpoint short endpoint) = portableAliases short endpoint := by
  rw [aliases, portableEndpoint_eq, field?_obj_of_nodup (nodup_keys_portableFields _ _),
    get?_portableFields, if_neg (by decide)]
  by_cases hempty : portableAliases short endpoint = []
  · simp [hempty]
  · simp [hempty]

/-- An attachment that a container is created with again is the one that it was created with. -/
theorem same_portableEndpoint {before : String} {endpoint : Json}
    (h : Attached short (portableEndpoint before endpoint) w) :
    Same (portableEndpoint short w) (portableEndpoint before endpoint) := by
  rw [portableEndpoint_eq, portableEndpoint_eq, same_obj_iff]
  intro name
  rw [get?_portableFields, get?_portableFields, h.portableAliases_eq, aliases_portableEndpoint]
  split
  · next hname => simpa [given?_portableEndpoint hname] using h.kept name hname
  · exact .refl _

theorem endpoints_ofInspection (h : Inspected v) (image : String) :
    ((ofInspection v).withImage image).endpoints = portableNetworks v := by
  rw [endpoints, get?_withImage _ _ _ (by decide), get?_ofInspection_networkingConfig h]
  by_cases hnetworks : networks v = []
  · simp [hnetworks, portableNetworks]
  · simp [hnetworks, Json.field?, Json.obj?]

theorem eq_nil_iff_get? {m : Map String Json} : m = [] ↔ ∀ name, m.get? name = none := by
  constructor
  · rintro rfl name
    rfl
  · intro h
    cases m with
    | nil => rfl
    | cons entry m => simpa [Map.get?_cons] using h entry.1

namespace CreatedFrom

variable {spec : ContainerSpec}

theorem shownShortId_eq (h : CreatedFrom spec id w) : shownShortId w = shortId id := by
  simp [shownShortId, h.shows_id, Json.str?]

/-- The hostname that the daemon made up is left out again, and no other one is. -/
theorem same_hostname (hw : Inspected w) (h : CreatedFrom spec id w) :
    SameOption ((ofInspection w).settings.get? "Hostname") (spec.settings.get? "Hostname") := by
  have hshort := shortId_ne_empty h.id_ne
  have hshown := h.hostname
  have hne := h.hostname_ne
  rw [get?_ofInspection_hostname hw, h.shownShortId_eq]
  cases hgiven : spec.settings.get? "Hostname" with
  | none =>
      rw [hgiven, Option.none_or] at hshown
      cases hconfig : (shownConfig w).get? "Hostname" with
      | none =>
          rw [hconfig] at hshown
          cases hshown
      | some shown =>
          rw [hconfig] at hshown
          obtain rfl := (Option.rel_some_some.1 hshown).eq_str
          simp [Option.filter, Json.str?, hshort]
  | some given =>
      rw [hgiven, Option.some_or] at hshown
      rw [hgiven] at hne
      cases hconfig : (shownConfig w).get? "Hostname" with
      | none =>
          rw [hconfig] at hshown
          cases hshown
      | some shown =>
          rw [hconfig] at hshown
          have hsame := Option.rel_some_some.1 hshown
          have hkept : shown.str? ≠ some (shortId id) := by
            rw [Ne, str?_eq_some_iff]
            rintro rfl
            exact hne (congrArg some hsame.symm.eq_str)
          simpa [Option.filter, hkept] using hsame

/-- A container has the attachments that it was created with, when it is created anew. -/
theorem same_portableNetworks (hv : Inspected v)
    (h : CreatedFrom ((ofInspection v).withImage image) id w) (name : String) :
    SameOption ((portableNetworks w).get? name) ((portableNetworks v).get? name) := by
  have hattached := h.attached name
  rw [endpoints_ofInspection hv, get?_portableNetworks] at hattached
  rw [get?_portableNetworks, get?_portableNetworks, h.shownShortId_eq]
  cases hold : Map.get? (networks v) name with
  | none =>
      rw [hold] at hattached
      cases hnew : Map.get? (networks w) name with
      | none => exact .none
      | some shown =>
          rw [hnew] at hattached
          cases hattached
  | some endpoint =>
      rw [hold] at hattached
      cases hnew : Map.get? (networks w) name with
      | none =>
          rw [hnew] at hattached
          cases hattached
      | some shown =>
          rw [hnew] at hattached
          exact .some (same_portableEndpoint (Option.rel_some_some.1 hattached))

theorem networks_eq_nil_iff (hv : Inspected v)
    (h : CreatedFrom ((ofInspection v).withImage image) id w) : networks w = [] ↔ networks v = [] := by
  have hnetworks (u : Json) : networks u = [] ↔ portableNetworks u = [] := by
    simp [portableNetworks]
  rw [hnetworks, hnetworks, eq_nil_iff_get?, eq_nil_iff_get?]
  refine forall_congr' fun name => ?_
  have hsame := (sameOption_iff.1 (h.same_portableNetworks hv name)).1
  rw [← Option.not_isSome_iff_eq_none, ← Option.not_isSome_iff_eq_none, hsame]

theorem same_networking (hv : Inspected v) (hw : Inspected w)
    (h : CreatedFrom ((ofInspection v).withImage image) id w) :
    SameOption ((ofInspection w).settings.get? "NetworkingConfig")
      ((ofInspection v).settings.get? "NetworkingConfig") := by
  rw [get?_ofInspection_networkingConfig hw, get?_ofInspection_networkingConfig hv]
  simp only [ne_eq, h.networks_eq_nil_iff hv]
  split
  · refine .some (same_obj_iff.2 fun name => ?_)
    rw [Map.get?_cons, Map.get?_cons]
    split
    · exact .some (same_obj_iff.2 fun name => h.same_portableNetworks hv name)
    · exact .refl none
  · exact .refl none

end CreatedFrom

/-- What a container that was created anew is created from next is what it was created from, apart from
the image. -/
theorem alike_of_createdFrom (hv : Inspected v) (hw : Inspected w)
    (h : CreatedFrom ((ofInspection v).withImage image) id w) :
    (ofInspection w).Alike (ofInspection v) := by
  rw [alike_iff]
  intro name hname
  have hgiven := get?_withImage (ofInspection v) image name hname
  by_cases hplain : name ∈ ["Hostname", "HostConfig", "NetworkingConfig"]
  · simp only [List.mem_cons, List.not_mem_nil, or_false] at hplain
    rcases hplain with rfl | rfl | rfl
    · rw [← hgiven]
      exact h.same_hostname hw
    · rw [get?_ofInspection_hostConfig hw, ← hgiven]
      exact h.host
    · exact h.same_networking hv hw
  · rw [get?_ofInspection_config hw hplain, ← hgiven]
    exact h.config name hplain

/-- Containers that were created anew a number of times: the inspection of the first one, and that of
the last. -/
inductive Recreated : Nat → Json → Json → Prop
  | first {v : Json} (hv : Inspected v) : Recreated 0 v v
  | next {count : Nat} {u v w : Json} {image id : String} (hv : Recreated count u v)
      (hcreated : CreatedFrom ((ofInspection v).withImage image) id w) (hw : Inspected w) :
      Recreated (count + 1) u w

theorem Recreated.inspected {count : Nat} (h : Recreated count v w) : Inspected w := by
  cases h with
  | first hv => exact hv
  | next _ _ hw => exact hw

/-- However often a container is created anew, it is created from the same, apart from the image. By
induction on how often: the inspections before and after each time lead to the same. -/
theorem Recreated.alike {count : Nat} (h : Recreated count v w) :
    (ofInspection w).Alike (ofInspection v) := by
  induction h with
  | first _ => exact .refl _
  | next hv hcreated hw ih => exact (alike_of_createdFrom hv.inspected hw hcreated).trans ih

/-- An inspection of a web server, whose hostname the daemon has made up. -/
def website (id image address : String) : Json :=
  .obj [("Id", .str id),
    ("HostConfig", .obj [("Binds", .arr [.str "/srv/www:/usr/share/nginx/html:ro"])]),
    ("Config", .obj [("Hostname", .str (shortId id)), ("Env", .arr [.str "MODE=prod"]),
      ("Image", .str image)]),
    ("NetworkSettings", .obj [("Networks", .obj [("frontend", .obj
      [("Aliases", .arr [.str "web", .str (shortId id)]), ("EndpointID", .str ("ep-" ++ id)),
        ("IPAddress", .str address)])])])]

/-- What the web server is created anew from. -/
def websiteSpec (image : String) : ContainerSpec where
  settings := [("Env", .arr [.str "MODE=prod"]),
    ("HostConfig", .obj [("Binds", .arr [.str "/srv/www:/usr/share/nginx/html:ro"])]),
    ("NetworkingConfig", .obj [("EndpointsConfig", .obj
      [("frontend", .obj [("Aliases", .arr [.str "web"])])])]),
    ("Image", .str image)]

theorem inspected_website (id image address : String) : Inspected (website id image address) :=
  ⟨website id image address, rfl⟩

theorem createdFrom_website {id : String} (hid : id ≠ "") (hweb : shortId id ≠ "web")
    (image address : String) : CreatedFrom (websiteSpec image) id (website id image address) where
  id_ne := hid
  shows_id := rfl
  config name hname := by
    obtain ⟨-, hhost, hnetworking⟩ : name ≠ "Hostname" ∧ name ≠ "HostConfig" ∧
      name ≠ "NetworkingConfig" := by simpa using hname
    refine .of_eq ?_
    simp_all [shownConfig, website, websiteSpec, Json.field?, Json.obj?, Map.get?_cons, eq_comm]
  hostname := .refl _
  hostname_ne := by simp [websiteSpec, Map.get?_cons, Map.get?_nil]
  host := .refl _
  attached name := by
    by_cases hname : "frontend" = name
    · subst hname
      refine .some ⟨fun name huser => ?_, ⟨[.str "web"], [], rfl, rfl⟩, ?_⟩
      · simp only [userFields, List.mem_cons, List.not_mem_nil, or_false] at huser
        rcases huser with rfl | rfl | rfl <;> exact .none
      · simp [aliases, Json.field?, hweb]
    · have hgiven : (websiteSpec image).endpoints.get? name = none := by
        change Map.get? [("frontend", _)] name = none
        rw [Map.get?_cons, if_neg hname, Map.get?_nil]
      have hshown : Map.get? (networks (website id image address)) name = none := by
        change Map.get? [("frontend", _)] name = none
        rw [Map.get?_cons, if_neg hname, Map.get?_nil]
      rw [hgiven, hshown]
      exact .none

/-- The web server was updated twice. -/
theorem website_alike :
    Recreated 2 (website "0123456789abcdef" "nginx:1.25" "172.18.0.4")
        (website "89abcdef01234567" "nginx:1.27" "172.18.0.9") ∧
      (ofInspection (website "89abcdef01234567" "nginx:1.27" "172.18.0.9")).Alike
        (ofInspection (website "0123456789abcdef" "nginx:1.25" "172.18.0.4")) := by
  have hfirst : CreatedFrom ((ofInspection
      (website "0123456789abcdef" "nginx:1.25" "172.18.0.4")).withImage "nginx:1.26")
      "fedcba9876543210" (website "fedcba9876543210" "nginx:1.26" "172.18.0.7") :=
    createdFrom_website (by decide) (by decide) _ _
  have hsecond : CreatedFrom ((ofInspection
      (website "fedcba9876543210" "nginx:1.26" "172.18.0.7")).withImage "nginx:1.27")
      "89abcdef01234567" (website "89abcdef01234567" "nginx:1.27" "172.18.0.9") :=
    createdFrom_website (by decide) (by decide) _ _
  have htwice := Recreated.next (.next (.first (inspected_website _ _ _)) hfirst
    (inspected_website _ _ _)) hsecond (inspected_website _ _ _)
  exact ⟨htwice, Recreated.alike htwice⟩

end Docker

end ContainerFleet

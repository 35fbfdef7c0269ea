import ContainerFleet.Json.Writer
import ContainerFleet.Proofs.Docker.Inspection
import ContainerFleet.Proofs.Replacement.Protocol

/-!
The request by which a replacement is created, against the inspection of the container that it
replaces. Main statement: `only_image_changes`. All but the image is taken over, apart from what the
daemon has assigned itself.
-/

namespace ContainerFleet

open Program (Runs runs_bind_iff runs_call_iff runs_pure_iff)

/-- A request to the API of a daemon with its response. -/
abbrev ApiExchange : Type :=
  Program.Exchange Docker.apiInterface

namespace Docker

open ContainerSpec

variable {v : Json} {short name image : String}

/-- What a network attachment is given of one that was inspected. -/
structure Portable (short : String) (endpoint : Json) (fields : Map String Json) : Prop where
  kept : ∀ name ∈ userFields, fields.get? name = endpoint.given? name
  no_alias : fields.get? "Aliases" = none ↔ ∀ a ∈ aliases endpoint, a = .str short
  aliases : ∀ a, fields.get? "Aliases" = some a →
    a = .arr ((aliases endpoint).filter fun a => a.str? != some short)
  no_other : ∀ name ∉ "Aliases" :: userFields, fields.get? name = none

/-- What a container is created from that differs from an inspected one in its image only. -/
structure ImageChanged (v : Json) (image : String) (settings : Map String Json) : Prop where
  nodup_keys : (Map.keys settings).Nodup
  image_eq : settings.get? "Image" = some (.str image)
  no_hostname : settings.get? "Hostname" = none ↔ (shownConfig v).get? "Hostname" = none ∨
    shownShortId v ≠ "" ∧ (shownConfig v).get? "Hostname" = some (.str (shownShortId v))
  hostname_eq : ∀ hostname, settings.get? "Hostname" = some hostname →
    (shownConfig v).get? "Hostname" = some hostname
  host_eq : settings.get? "HostConfig" = v.field? "HostConfig"
  config_eq : ∀ name ∉ ["Image", "Hostname", "HostConfig", "NetworkingConfig"],
    settings.get? name = (shownConfig v).get? name
  no_network : settings.get? "NetworkingConfig" = none ↔ networks v = []
  networks_eq : ∀ networking, settings.get? "NetworkingConfig" = some networking →
    ∃ endpoints : Map String Json, networking = .obj [("EndpointsConfig", .obj endpoints)] ∧
      Map.keys endpoints = Map.keys (networks v) ∧
      ∀ network endpoint, Map.get? (networks v) network = some endpoint →
        ∃ fields, endpoints.get? network = some (.obj fields) ∧
          Portable (shownShortId v) endpoint fields

theorem portable_portableFields (short : String) (endpoint : Json) :
    Portable short endpoint (portableFields short endpoint) where
  kept name hname := by rw [get?_portableFields, if_pos hname]
  no_alias := by
    rw [get?_portableFields, if_neg (by decide)]
    simp [portableAliases_eq, str?_eq_some_iff]
  aliases a ha := by
    rw [get?_portableFields, if_neg (by decide)] at ha
    split at ha
    · cases ha
      rw [portableAliases_eq]
    · cases ha
  no_other name hname := by
    rw [List.mem_cons, not_or] at hname
    rw [get?_portableFields, if_neg hname.2, if_neg fun h => hname.1 h.1]

theorem keys_portableNetworks (v : Json) :
    Map.keys (portableNetworks v) = Map.keys (networks v) := by
  simp [portableNetworks, Map.keys]

theorem nodup_keys_ofInspection (h : Inspected v) : (Map.keys (ofInspection v).settings).Nodup := by
  have hconfig : (Map.keys (portableConfig (shownShortId v) (shownConfig v))).Sublist
      (Map.keys containerConfigFields) :=
    (List.filter_sublist.map _).trans (keys_shownConfig h)
  have hhost : (Map.keys ((v.field? "HostConfig").map (("HostConfig" : String), ·)).toList).Sublist
      ["HostConfig"] := by
    cases v.field? "HostConfig" <;> simp [Map.keys]
  have hnetworking : (Map.keys (if (portableNetworks v).isEmpty then []
      else [("NetworkingConfig", Json.obj [("EndpointsConfig", .obj (portableNetworks v))])])).Sublist
      ["NetworkingConfig"] := by
    split <;> simp [Map.keys]
  have hall := (hconfig.append hhost).append hnetworking
  rw [Map.keys, Map.keys, Map.keys, ← List.map_append, ← List.map_append] at hall
  exact List.Nodup.sublist hall (by decide)

theorem get?_hostname_eq_none_iff (h : Inspected v) :
    (ofInspection v).settings.get? "Hostname" = none ↔ (shownConfig v).get? "Hostname" = none ∨
      shownShortId v ≠ "" ∧ (shownConfig v).get? "Hostname" = some (.str (shownShortId v)) := by
  rw [get?_ofInspection_hostname h]
  cases (shownConfig v).get? "Hostname" with
  | none => simp
  | some hostname => simp [Option.filter, str?_eq_some_iff]

/-- What a container is created anew from is what its inspection shows, but for the image. -/
theorem imageChanged_withImage (h : Inspected v) (image : String) :
    ImageChanged v image ((ofInspection v).withImage image).settings where
  nodup_keys := Map.nodup_keys_insert (nodup_keys_ofInspection h) _ _
  image_eq := Map.get?_insert_self _ _ _
  no_hostname := by
    rw [get?_withImage _ _ _ (by decide), get?_hostname_eq_none_iff h]
  hostname_eq hostname hget := by
    rw [get?_withImage _ _ _ (by decide), get?_ofInspection_hostname h] at hget
    exact (Option.filter_eq_some_iff.1 hget).1
  host_eq := by rw [get?_withImage _ _ _ (by decide), get?_ofInspection_hostConfig h]
  config_eq name hname := by
    rw [List.mem_cons, not_or] at hname
    rw [get?_withImage _ _ _ hname.1, get?_ofInspection_config h hname.2]
  no_network := by
    rw [get?_withImage _ _ _ (by decide), get?_ofInspection_networkingConfig h]
    simp
  networks_eq networking hget := by
    rw [get?_withImage _ _ _ (by decide), get?_ofInspection_networkingConfig h] at hget
    split at hget
    · cases hget
      refine ⟨portableNetworks v, rfl, keys_portableNetworks v, fun network endpoint hendpoint => ?_⟩
      refine ⟨portableFields (shownShortId v) endpoint, ?_, portable_portableFields _ _⟩
      rw [get?_portableNetworks, hendpoint, Option.map_some, portableEndpoint_eq]
    · cases hget

/-- Whether an inspected container runs. -/
def ShownRunning (v : Json) : Prop :=
  (v.field? "State").bind (Json.field? "Running") = some (.bool true)

/-- The name of an inspected container, without the slashes in front. -/
def shownName (v : Json) : String :=
  ((textField v "Name").map plainName).getD ""

theorem bool?_eq_some_iff {b : Bool} : v.bool? = some b ↔ v = .bool b := by
  cases v <;> simp [Json.bool?]

theorem running_detailsOf (asked : String) (v : Json) :
    (detailsOf asked v).running = true ↔ ShownRunning v := by
  change ((((v.field? "State").getD .null).field? "Running").bind Json.bool?).getD false = true ↔ _
  rw [ShownRunning]
  cases v.field? "State" with
  | none => simp [Json.field?]
  | some state =>
      rw [Option.getD_some, Option.bind_some]
      cases state.field? "Running" with
      | none => simp
      | some running =>
          rw [Option.bind_some, Option.some.injEq, ← bool?_eq_some_iff]
          cases running.bool? <;> simp

/-- The request by which a container is created anew in the place of one that was inspected. -/
structure CreatesAnew (v : Json) (image : String) (q : ApiRequest) : Prop where
  method_eq : q.method = "POST"
  path_eq : q.path = "/containers/create"
  name_of_running : ShownRunning v →
    q.query = [("name", Replacement.temporaryName (shownName v))]
  name_of_not_running : ¬ ShownRunning v → q.query = [("name", shownName v)]
  body_eq : ∃ settings, q.body = some (.obj settings) ∧ ImageChanged v image settings

theorem eq_of_runs_create {spec : ContainerSpec} {t : List ApiExchange}
    {reply : (DaemonCall.create name spec).Reply}
    (h : Runs (perform (.create name spec)) t reply) :
    t.map Program.Exchange.request =
      [⟨"POST", "/containers/create", [("name", name)], some spec.toJson⟩] := by
  obtain ⟨sent, u, response, rfl, hsent, hend⟩ := runs_bind_iff.1 h
  obtain ⟨rfl, -⟩ := runs_pure_iff.1 hend
  have hpath : String.ofList (Url.path ("/containers/create".toList.takeWhile fun c =>
      c != '?' && c != '#')) = "/containers/create" := by decide +kernel
  rw [runs_call_iff.1 hsent, hpath]
  rfl

/-- What is known of a container is read from the response to its inspection. -/
theorem exists_of_runs_inspect {asked : String} {request : ApiRequest}
    {response : Option ApiResponse} {old : ContainerDetails}
    (h : Runs (perform (.inspect asked)) [⟨request, response⟩] (.ok old)) :
    ∃ v, answer inspection response = .ok v ∧ old = detailsOf asked v := by
  obtain ⟨sent, u, received, htrace, hsent, hend⟩ := runs_bind_iff.1 h
  obtain ⟨rfl, hold⟩ := runs_pure_iff.1 hend
  rw [runs_call_iff.1 hsent] at htrace
  cases htrace
  cases hanswer : answer inspection response with
  | error e =>
      rw [hanswer] at hold
      cases hold
  | ok v =>
      rw [hanswer] at hold
      cases hold
      exact ⟨v, rfl, rfl⟩

end Docker

namespace Replacement

open Docker (CreatesAnew)

/-- The name and the settings that a container is created with, if a call is that. -/
def creation? : DaemonCall → Option (String × ContainerSpec)
  | .create name spec => some (name, spec)
  | _ => none

/-- The containers that are created in a conversation, or were to be. -/
def creations (trace : List UpdateExchange) : List (String × ContainerSpec) :=
  (daemonCalls trace).filterMap creation?

variable {stopTimeout : Duration} {key image : String} {old : ContainerDetails}
  {trace : List UpdateExchange} {result : Except ReplaceError Replaced}

/-- The name that the replacement of a container is created under. -/
def createdName (old : ContainerDetails) : String :=
  if old.running then temporaryName old.name else old.name

@[simp]
theorem creations_nil : creations [] = [] :=
  rfl

@[simp]
theorem creations_said_cons (call : DaemonCall) (r : call.Reply) (t : List UpdateExchange) :
    creations (said call r :: t) = (creation? call).toList ++ creations t := by
  rw [creations, daemonCalls_said_cons, List.filterMap_cons]
  cases creation? call <;> rfl

@[simp]
theorem creations_append (t u : List UpdateExchange) :
    creations (t ++ u) = creations t ++ creations u := by
  simp [creations, daemonCalls_append]

theorem Checked.creations_eq_nil {newId : String} {verdict : Except HealthError Unit}
    (h : Checked old newId trace verdict) : creations trace = [] := by
  rcases h.calls with hcalls | hcalls <;> rw [creations, hcalls] <;> rfl

theorem Restart.creations_eq_nil {cause : ReplaceFailure} {err : ReplaceError}
    (h : Restart old cause trace err) : creations trace = [] := by
  rw [creations, h.daemonCalls_eq]
  rfl

/-- One container is created, unless the one before it could not be taken out of the way. -/
theorem Course.creations_eq (h : Course stopTimeout image old trace result) :
    (creations trace = [] ∧
      ∃ e, result = .error (.step (if old.running then .stop else .remove) old.name e)) ∨
    creations trace = [(createdName old, old.spec.withImage image)] := by
  cases h with
  | notRemoved hstopped e => exact .inl ⟨rfl, e, by simp [hstopped]⟩
  | notStopped hrunning e => exact .inl ⟨rfl, e, by simp [hrunning]⟩
  | notRecreated hstopped e => exact .inr (by simp [creation?, createdName, hstopped])
  | recreated hstopped newId => exact .inr (by simp [creation?, createdName, hstopped])
  | notCreated hrunning e hlast =>
      exact .inr (by simp [creation?, createdName, hrunning, hlast.creations_eq_nil])
  | notStarted hrunning newId e removed hlast =>
      exact .inr (by simp [creation?, createdName, hrunning, hlast.creations_eq_nil])
  | unhealthy hrunning newId hcheck removed hlast =>
      right
      simp [creation?, createdName, hrunning, hcheck.creations_eq_nil, hlast.creations_eq_nil]
  | oldNotRemoved hrunning newId hcheck e =>
      exact .inr (by simp [creation?, createdName, hrunning, hcheck.creations_eq_nil])
  | notRenamed hrunning newId hcheck e =>
      exact .inr (by simp [creation?, createdName, hrunning, hcheck.creations_eq_nil])
  | tookOver hrunning newId hcheck =>
      exact .inr (by simp [creation?, createdName, hrunning, hcheck.creations_eq_nil])

/-- Whatever the response to the inspection of a container shows, the request by which its
replacement is created differs from it in the image only, apart from what the daemon had assigned.
One such request is sent, unless the old container could not be stopped, or removed if it did not
run. -/
theorem only_image_changes {request : Docker.ApiRequest} {response : Option Docker.ApiResponse}
    (hinspect : Runs (Docker.perform (.inspect key)) [⟨request, response⟩] (.ok old))
    (h : Runs (replace stopTimeout key image) (said (.inspect key) (.ok old) :: trace) result) :
    ∃ v, Docker.answer Docker.inspection response = .ok v ∧
      ((creations trace = [] ∧
        ∃ e, result = .error (.step (if old.running then .stop else .remove) old.name e)) ∨
      ∃ name spec, creations trace = [(name, spec)] ∧
        ∀ (sent : List ApiExchange) reply, Runs (Docker.perform (.create name spec)) sent reply →
          ∃ q, sent.map Program.Exchange.request = [q] ∧ CreatesAnew v image q) := by
  obtain ⟨v, hanswer, rfl⟩ := Docker.exists_of_runs_inspect hinspect
  refine ⟨v, hanswer, ?_⟩
  cases protocol_of_runs h with
  | inspected _ hcourse =>
      refine hcourse.creations_eq.imp_right fun hcreations => ?_
      refine ⟨_, _, hcreations, fun sent reply hsent => ⟨_, Docker.eq_of_runs_create hsent, ?_⟩⟩
      have hrunning := Docker.running_detailsOf key v
      exact {
        method_eq := rfl
        path_eq := rfl
        name_of_running := fun hshown => by
          rw [createdName, if_pos (hrunning.2 hshown)]
          rfl
        name_of_not_running := fun hshown => by
          rw [createdName, if_neg (mt hrunning.1 hshown)]
          rfl
        body_eq := ⟨_, rfl, Docker.imageChanged_withImage (Docker.inspected_of_answer hanswer) image⟩ }

/-- The inspection of a web server that runs, whose hostname the daemon has made up. -/
def websiteResponse : Docker.ApiResponse where
  status := 200
  body := (Json.obj [("Id", .str "0123456789abcdef"), ("Name", .str "/web"),
    ("State", .obj [("Running", .bool true)]),
    ("Config", .obj [("Hostname", .str "0123456789ab"), ("Env", .arr [.str "MODE=prod"])]),
    ("HostConfig", .obj [("Binds", .arr [.str "/srv/www:/usr/share/nginx/html:ro"])]),
    ("NetworkSettings", .obj [("Networks", .obj [("frontend", .obj
      [("Aliases", .arr [.str "web", .str "0123456789ab"]), ("EndpointID", .str "ep-1")])])])]).compress

theorem exists_answer_websiteResponse :
    ∃ v, Docker.answer Docker.inspection (some websiteResponse) = .ok v ∧
      Docker.ShownRunning v ∧ Docker.shownName v = "web" := by
  have hread : (Docker.answer Docker.inspection (some websiteResponse)).toOption.any (fun v =>
      (Docker.detailsOf "web" v).running && Docker.shownName v == "web") = true := by
    decide +kernel
  cases hanswer : Docker.answer Docker.inspection (some websiteResponse) with
  | error e =>
      rw [hanswer] at hread
      cases hread
  | ok v =>
      rw [hanswer] at hread
      obtain ⟨hrunning, hname⟩ := Bool.and_eq_true_iff.1 hread
      exact ⟨v, rfl, (Docker.running_detailsOf "web" v).1 hrunning, eq_of_beq hname⟩

/-- The web server is stopped, and its replacement is to be created under its temporary name. -/
theorem only_image_changes_website :
    ∃ (old : ContainerDetails) (trace : List UpdateExchange)
      (result : Except ReplaceError Replaced) (v : Json) (q : Docker.ApiRequest),
      Runs (Docker.perform (.inspect "web"))
        [⟨⟨"GET", "/containers/web/json", [], none⟩, some websiteResponse⟩] (.ok old) ∧
      Runs (replace .zero "web" "nginx:1.27") (said (.inspect "web") (.ok old) :: trace) result ∧
      Docker.answer Docker.inspection (some websiteResponse) = .ok v ∧ CreatesAnew v "nginx:1.27" q ∧
      q.query = [("name", "web-dockman-update")] := by
  obtain ⟨v, hanswer, hrunning, hname⟩ := exists_answer_websiteResponse
  let old := Docker.detailsOf "web" v
  let failing : DaemonError := .unexpected "full"
  have hinspect : Runs (Docker.perform (.inspect "web"))
      [⟨⟨"GET", "/containers/web/json", [], none⟩, some websiteResponse⟩] (.ok old) := by
    have hpath : String.ofList (Url.path (("/containers/" ++ "web" ++ "/json").toList.takeWhile fun c =>
        c != '?' && c != '#')) = "/containers/web/json" := by decide +kernel
    rw [← hpath]
    refine runs_bind_iff.2 ⟨[_], [], some websiteResponse, rfl, runs_call_iff.2 rfl, ?_⟩
    rw [hanswer]
    exact .done _
  have hold : old.running = true := (Docker.running_detailsOf "web" v).2 hrunning
  have hcourse : Course .zero "nginx:1.27" old _ _ := .notCreated hold failing .again
  have hprotocol : Protocol .zero "web" "nginx:1.27" _ _ := .inspected old hcourse
  have hruns := runs_replace_iff.2 hprotocol
  obtain ⟨w, hw, hend⟩ := only_image_changes hinspect hruns
  cases hanswer.symm.trans hw
  rcases hend with ⟨hnone, -⟩ | ⟨name, spec, -, hsent⟩
  · cases hnone
  · have hrefused : Runs (Docker.perform (.create name spec)) _ _ :=
      runs_bind_iff.2 ⟨_, [], none, rfl, runs_call_iff.2 rfl, .done _⟩
    obtain ⟨q, -, hq⟩ := hsent _ _ hrefused
    refine ⟨old, _, _, v, q, hinspect, hruns, hanswer, hq, ?_⟩
    rw [hq.name_of_running hrunning, hname]
    rfl

end Replacement

end ContainerFleet

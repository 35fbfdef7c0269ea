import ContainerFleet.Json.Shape

/-!
The shapes of the values that Docker's API takes and answers, in version 1.45.
-/

namespace ContainerFleet.Docker

open Shape

def healthcheck : Shape :=
  .record [("Test", texts), ("Interval", int64), ("Timeout", int64), ("Retries", int64),
    ("StartPeriod", int64), ("StartInterval", int64)]

/-- The settings that the image and the command line give a container. -/
def containerConfigFields : List (String × Shape) :=
  [("Hostname", .text), ("Domainname", .text), ("User", .text), ("AttachStdin", .flag),
    ("AttachStdout", .flag), ("AttachStderr", .flag), ("ExposedPorts", .map .emptyObject),
    ("Tty", .flag), ("OpenStdin", .flag), ("StdinOnce", .flag), ("Env", texts), ("Cmd", texts),
    ("Healthcheck", healthcheck), ("ArgsEscaped", .flag), ("Image", .text),
    ("Volumes", .map .emptyObject), ("WorkingDir", .text), ("Entrypoint", texts),
    ("NetworkDisabled", .flag), ("MacAddress", .text), ("OnBuild", texts), ("Labels", textMap),
    ("StopSignal", .text), ("StopTimeout", int64), ("Shell", texts)]

def portMap : Shape :=
  .map (.nullable (.list (.record [("HostIp", .text), ("HostPort", .text)])))

def throttle : Shape :=
  .list (.record [("Path", .text), ("Rate", int64)])

def mountKinds : List String :=
  ["", "bind", "volume", "tmpfs", "npipe", "cluster"]

def mount : Shape :=
  .record [("Target", .text), ("Source", .text), ("Type", .word mountKinds), ("ReadOnly", .flag),
    ("Consistency", .text),
    ("BindOptions", .record
      [("Propagation",
          .word ["", "private", "rprivate", "shared", "rshared", "slave", "rslave"]),
        ("NonRecursive", .flag), ("CreateMountpoint", .flag), ("ReadOnlyNonRecursive", .flag),
        ("ReadOnlyForceRecursive", .flag)]),
    ("VolumeOptions", .record
      [("NoCopy", .flag), ("Labels", textMap),
        ("DriverConfig", .record [("Name", .text), ("Options", textMap)]), ("Subpath", .text)]),
    ("TmpfsOptions", .record [("SizeBytes", int64), ("Mode", int64)])]

/-- The settings of a container that concern its host. -/
def hostConfig : Shape :=
  .record [("CpuShares", int64), ("Memory", int64), ("CgroupParent", .text),
    ("BlkioWeight", word16),
    ("BlkioWeightDevice", .list (.record [("Path", .text), ("Weight", word64)])),
    ("BlkioDeviceReadBps", throttle), ("BlkioDeviceWriteBps", throttle),
    ("BlkioDeviceReadIOps", throttle), ("BlkioDeviceWriteIOps", throttle), ("CpuPeriod", int64),
    ("CpuQuota", int64), ("CpuRealtimePeriod", int64), ("CpuRealtimeRuntime", int64),
    ("CpusetCpus", .text), ("CpusetMems", .text),
    ("Devices", .list (.record
      [("PathOnHost", .text), ("PathInContainer", .text), ("CgroupPermissions", .text)])),
    ("DeviceCgroupRules", texts),
    ("DeviceRequests", .list (.record
      [("Driver", .text), ("Count", int64), ("DeviceIDs", texts), ("Capabilities", .list texts),
        ("Options", textMap)])),
    ("KernelMemoryTCP", int64), ("MemoryReservation", int64), ("MemorySwap", int64),
    ("MemorySwappiness", int64), ("NanoCpus", int64), ("OomKillDisable", .flag), ("Init", .flag),
    ("PidsLimit", int64),
    ("Ulimits", .list (.record [("Name", .text), ("Soft", int64), ("Hard", int64)])),
    ("CpuCount", int64), ("CpuPercent", int64), ("IOMaximumIOps", int64),
    ("IOMaximumBandwidth", int64), ("Binds", texts), ("ContainerIDFile", .text),
    ("LogConfig", .record [("Type", .text), ("Config", textMap)]), ("NetworkMode", .text),
    ("PortBindings", portMap),
    ("RestartPolicy", .record
      [("Name", .word ["", "no", "always", "unless-stopped", "on-failure"]),
        ("MaximumRetryCount", int64)]),
    ("AutoRemove", .flag), ("VolumeDriver", .text), ("VolumesFrom", texts),
    ("Mounts", .list mount), ("ConsoleSize", .list int32), ("Annotations", textMap),
    ("CapAdd", texts), ("CapDrop", texts), ("CgroupnsMode", .word ["", "private", "host"]),
    ("Dns", texts), ("DnsOptions", texts), ("DnsSearch", texts), ("ExtraHosts", texts),
    ("GroupAdd", texts), ("IpcMode", .text), ("Cgroup", .text), ("Links", texts),
    ("OomScoreAdj", int64), ("PidMode", .text), ("Privileged", .flag), ("PublishAllPorts", .flag),
    ("ReadonlyRootfs", .flag), ("SecurityOpt", texts), ("StorageOpt", textMap),
    ("Tmpfs", textMap), ("UTSMode", .text), ("UsernsMode", .text), ("ShmSize", int64),
    ("Sysctls", textMap), ("Runtime", .text),
    ("Isolation", .word ["", "default", "process", "hyperv"]), ("MaskedPaths", texts),
    ("ReadonlyPaths", texts)]

/-- How a container is attached to one network. -/
def endpointFields : List (String × Shape) :=
  [("IPAMConfig", .record
      [("IPv4Address", .text), ("IPv6Address", .text), ("LinkLocalIPs", texts)]),
    ("Links", texts), ("MacAddress", .text), ("Aliases", texts), ("NetworkID", .text),
    ("EndpointID", .text), ("Gateway", .text), ("IPAddress", .text), ("IPPrefixLen", int64),
    ("IPv6Gateway", .text), ("GlobalIPv6Address", .text), ("GlobalIPv6PrefixLen", int64),
    ("DriverOpts", textMap), ("DNSNames", texts)]

def endpoint : Shape := .record endpointFields

/-- What a container is created from. -/
def createConfig : Shape :=
  .record (containerConfigFields ++ [("HostConfig", hostConfig),
    ("NetworkingConfig", .record [("EndpointsConfig", .required (.map endpoint))])])

def mountPoint : Shape :=
  .record [("Type", .word mountKinds), ("Name", .text), ("Source", .text), ("Destination", .text),
    ("Driver", .text), ("Mode", .text), ("RW", .flag), ("Propagation", .text)]

def addresses : Shape :=
  .list (.record [("Addr", .text), ("PrefixLen", int64)])

def networkSettings : Shape :=
  .record [("Bridge", .text), ("SandboxID", .text), ("HairpinMode", .flag),
    ("LinkLocalIPv6Address", .text), ("LinkLocalIPv6PrefixLen", int64), ("Ports", portMap),
    ("SandboxKey", .text), ("SecondaryIPAddresses", addresses),
    ("SecondaryIPv6Addresses", addresses), ("EndpointID", .text), ("Gateway", .text),
    ("GlobalIPv6Address", .text), ("GlobalIPv6PrefixLen", int64), ("IPAddress", .text),
    ("IPPrefixLen", int64), ("IPv6Gateway", .text), ("MacAddress", .text),
    ("Networks", .map endpoint)]

def containerState : Shape :=
  .record [("Status", .word
      ["", "created", "running", "paused", "restarting", "removing", "exited", "dead"]),
    ("Running", .flag), ("Paused", .flag), ("Restarting", .flag), ("OOMKilled", .flag),
    ("Dead", .flag), ("Pid", int64), ("ExitCode", int64), ("Error", .text), ("StartedAt", .text),
    ("FinishedAt", .text),
    ("Health", .record
      [("Status", .word ["", "none", "starting", "healthy", "unhealthy"]),
        ("FailingStreak", int64),
        ("Log", .list (.record
          [("Start", .text), ("End", .text), ("ExitCode", int64), ("Output", .text)]))])]

/-- What is answered when a container is inspected. -/
def inspection : Shape :=
  .record [("Id", .text), ("Created", .text), ("Path", .text), ("Args", texts),
    ("State", containerState), ("Image", .text), ("ResolvConfPath", .text),
    ("HostnamePath", .text), ("HostsPath", .text), ("LogPath", .text), ("Name", .text),
    ("RestartCount", int64), ("Driver", .text), ("Platform", .text), ("MountLabel", .text),
    ("ProcessLabel", .text), ("AppArmorProfile", .text), ("ExecIDs", texts),
    ("HostConfig", hostConfig),
    ("GraphDriver", .record
      [("Name", .required .text), ("Data", .required (.nullable textMap))]),
    ("SizeRw", int64), ("SizeRootFs", int64), ("Mounts", .list mountPoint),
    ("Config", .record containerConfigFields), ("NetworkSettings", networkSettings)]

def systemInfo : Shape :=
  .record [("ID", .text), ("Containers", int64), ("ContainersRunning", int64),
    ("ContainersPaused", int64), ("ContainersStopped", int64), ("Images", int64),
    ("Driver", .text), ("DockerRootDir", .text), ("MemoryLimit", .flag), ("SwapLimit", .flag),
    ("Debug", .flag), ("NCPU", int64), ("MemTotal", int64), ("Name", .text), ("Labels", texts),
    ("KernelVersion", .text), ("OperatingSystem", .text), ("OSVersion", .text), ("OSType", .text),
    ("Architecture", .text), ("IndexServerAddress", .text), ("HttpProxy", .text),
    ("HttpsProxy", .text), ("NoProxy", .text), ("ExperimentalBuild", .flag),
    ("ServerVersion", .text), ("DefaultRuntime", .text), ("LiveRestoreEnabled", .flag),
    ("InitBinary", .text), ("SecurityOptions", texts), ("Warnings", texts)]

def containerSummaries : Shape :=
  .list (.record [("Id", .text), ("Names", texts), ("Image", .text), ("ImageID", .text),
    ("Command", .text), ("Created", int64),
    ("Ports", .list (.record
      [("IP", .text), ("PrivatePort", .required word16), ("PublicPort", word16),
        ("Type", .word ["", "tcp", "udp", "sctp"])])),
    ("SizeRw", int64), ("SizeRootFs", int64), ("Labels", textMap), ("State", .text),
    ("Status", .text),
    ("HostConfig", .record [("NetworkMode", .text), ("Annotations", textMap)]),
    ("NetworkSettings", .record [("Networks", .map endpoint)]), ("Mounts", .list mountPoint)])

def created : Shape :=
  .record [("Id", .required .text), ("Warnings", .required (.nullable texts))]

def imageInspection : Shape :=
  .record [("Id", .text), ("RepoTags", texts), ("RepoDigests", texts), ("Parent", .text),
    ("Comment", .text), ("Created", .text), ("Container", .text), ("DockerVersion", .text),
    ("Architecture", .text), ("Variant", .text), ("Os", .text), ("OsVersion", .text),
    ("Size", int64), ("VirtualSize", int64)]

def imageSummaries : Shape :=
  .list (.record [("Id", .required .text), ("ParentId", .required .text),
    ("RepoTags", .required (.nullable texts)), ("RepoDigests", .required (.nullable texts)),
    ("Created", .required int64), ("Size", .required int64), ("SharedSize", .required int64),
    ("VirtualSize", int64), ("Labels", .required (.nullable textMap)),
    ("Containers", .required int64)])

def distribution : Shape :=
  .record [("Descriptor", .required (.record
      [("mediaType", .text), ("digest", .text), ("size", int64)])),
    ("Platforms", .required (.nullable (.list (.record
      [("architecture", .text), ("os", .text), ("os.version", .text), ("os.features", texts),
        ("variant", .text)]))))]

/-- One event of a pull. -/
def pullEvent : Shape :=
  .record [("id", .text), ("error", .text),
    ("errorDetail", .record [("code", int64), ("message", .text)]), ("status", .text),
    ("progress", .text), ("progressDetail", .record [("current", int64), ("total", int64)])]

def pruned : Shape :=
  .record [("ImagesDeleted", .list (.record [("Untagged", .text), ("Deleted", .text)])),
    ("SpaceReclaimed", int64)]

/-- How an error is answered. -/
def apiError : Shape :=
  .record [("message", .required .text)]

end ContainerFleet.Docker

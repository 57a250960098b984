import NetboxSync.Lib.Json.Encode

open json

namespace netbox_sync.source_config

/-- The parts of a source's configuration that running it reads. -/
structure SourceConfig where
  id : String
  source_instance : String
  source_type : String
deriving DecidableEq, Repr

structure NetBoxTargetConfig where
  site_slug : String
  device_role_slug : String
  platform_slug : String
  device_type_slug : String
  cluster_type_slug : String
  cluster_name : String
  onboarding_mapping : Fields := []
deriving DecidableEq, Repr

def NetBoxTargetConfig.asdict (target : NetBoxTargetConfig) : Value :=
  .obj [("site_slug", .str target.site_slug), ("device_role_slug", .str target.device_role_slug),
    ("platform_slug", .str target.platform_slug), ("device_type_slug", .str target.device_type_slug),
    ("cluster_type_slug", .str target.cluster_type_slug), ("cluster_name", .str target.cluster_name),
    ("onboarding_mapping", .obj target.onboarding_mapping)]

/-- A reference to a secret, never the secret itself. -/
structure SecretReference where
  provider : String
  key : String
deriving DecidableEq, Repr

structure SourceCredentials where
  username : String
  token_id : SecretReference
  token_secret : SecretReference
deriving DecidableEq, Repr

/-- `SourceConfig` with all its members. -/
structure CompleteSourceConfig extends SourceConfig where
  name : String
  address : String
  enabled : Bool
  sync_enabled : Bool
  sync_interval_seconds : Int
  verify_ssl : Bool
  target : NetBoxTargetConfig
  credentials : SourceCredentials
  sync_calendar : Option Value := none
  schedule_changed_at : Option Nat := none
  legacy_identity_owner : Bool := false
  settings : Fields := []
deriving DecidableEq, Repr

end netbox_sync.source_config

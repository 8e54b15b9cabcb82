/-
Mean time to restore: the query of `mttr` in `services/dora_service.py`.

The metric asks for the stamp `resolved_at` and never for the status, so an incident that
lost the stamp is in no window.
-/
import EnvMgr.Incidents.Service

namespace EnvMgr.Incidents

variable {db : Db} {date_from date_to : DateTime} {release_id : Option ℕ}

end EnvMgr.Incidents

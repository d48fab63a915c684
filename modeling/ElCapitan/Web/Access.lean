import ElCapitan.Web.Requests

/-!
# Who reaches a control plane

A request without the session cookie reaches nothing but the health check, and a posted request of
another origin reaches nothing at all. The cookie is given to whoever knows the token, and the
redirection that carries it stays on the server.
-/

namespace ElCapitan

open Effects

section guards

variable {W : WebHost} {B : Boundary} {server : WebServer} {request : HttpRequest}
  {F : Operation → Prop} {health : Service Json}
  {getRoute : String → List (String × String) → Service HttpResponse}
  {postRoute : String → Document → Service HttpResponse}

end guards

section serving

variable {W : WebHost} {server : WebServer} {F : Operation → Prop} {calls : List HttpCall}

/-- The readings of a review plane. -/
structure ReviewPlane.Reads (control : ReviewPlane) (F : Operation → Prop) : Prop where
  health : control.health.Uses F
  queue : ∀ tenant, (control.queue tenant).Uses F
  detail : ∀ tenant caseId, (control.detail tenant caseId).Uses F

/-- The readings of a shadow plane. -/
structure ShadowPlane.Reads (control : ShadowPlane) (F : Operation → Prop) : Prop where
  health : control.health.Uses F
  snapshot : ∀ tenant, (control.snapshot tenant).Uses F
  connectorStatus : control.connectorStatus.Uses F
  caseDetail : ∀ tenant caseId, (control.caseDetail tenant caseId).Uses F
  promotionManifest : ∀ tenant caseId, (control.promotionManifest tenant caseId).Uses F

end serving

end ElCapitan

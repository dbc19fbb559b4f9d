import Proofing.Identity
import Proofing.Json.Reader
/-
  Proofing — the web session of the host application.

  A web session is a JSON object; a flow only reads and writes the members under
  its own keys.
-/
namespace Proofing

/-- The web session of a user. -/
structure WebSession where
  id : SessionId
  data : Members Json

namespace WebSession

/-- The object under a key, if there is one. -/
def space? (w : WebSession) (key : String) : Option (Members Json) :=
  (Members.find? key w.data).bind Json.members?

/-- Puts an object under a key. -/
def replace (w : WebSession) (key : String) (values : Members Json) : WebSession :=
  { w with data := Members.put key (.obj values) w.data }

/-- Removes whatever is under a key. -/
def remove (w : WebSession) (key : String) : WebSession :=
  { w with data := Members.erase key w.data }

/-- There is something under a key. -/
def has (w : WebSession) (key : String) : Bool :=
  (Members.find? key w.data).isSome

/-- The fields of the JSON form. -/
def record : Record WebSession :=
  WebSession.mk <$> .field "id" <*> .defaulted "data" []

/-- The members of the JSON form. -/
def members (w : WebSession) : List (String × Json) :=
  [("id", Coded.encode w.id), ("data", .obj w.data)]

instance : Coded WebSession := ⟨fun w => .ofMembers w.members, record.decode "UserSession"⟩

/-- The web session in a text. -/
def ofText? (text : String) : Option WebSession :=
  (Raw.parse? (.ofString text)).bind (Raw.record? "UserSession" record)

/-- The text of a web session, over several lines. -/
def text (w : WebSession) : String :=
  Json.pretty (.obj w.members)

end WebSession

end Proofing

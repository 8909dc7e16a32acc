import SupremeOs.DomainModel.AutomationsDsl
import SupremeOs.Identity.Store

/-!
# The policy engine

A request is decided by the user's state, then by the grants that apply to it,
where one that denies wins over all that allow, and at last by what the type of
the user allows.  A grant applies to a kind of resource or to one resource, to
an action, for a time and on a weekly schedule.

`new Date(text)` is a parameter: the instant in milliseconds, or nothing for a
text that is no date.  Nothing is before or after such a date.
-/

namespace SupremeOs.Permissions

open DomainModel
open Identity (UserType UserStatus)

inductive ResourceType where
  | room
  | device
  | scene
  | automation
  | camera
  | integration
  | user
  | home
  | keypad_mapping
  | intent
deriving DecidableEq

inductive Action where
  | view
  | control
  | create
  | update
  | delete
  | admin
deriving DecidableEq

inductive Effect where
  | allow
  | deny
deriving DecidableEq

structure User where
  id : String
  userType : UserType
  status : UserStatus
  expiresAt : Option String

structure Grant where
  id : String
  userId : String
  resourceType : ResourceType
  /-- Absent if the grant is for all resources of the type. -/
  resourceId : Option String
  action : Action
  effect : Effect
  validFrom : Option String
  validUntil : Option String
  schedule : Option (List ScheduleWindow)

def all : List Action := [.view, .control, .create, .update, .delete, .admin]

def viewControl : List Action := [.view, .control]

/-- `BASELINE_ROLES`, where a resource type that is not listed has no actions. -/
def baselineRoles : UserType → ResourceType → Option (List Action)
  | .master, _ => some all
  | .admin, .home => some [.view, .update, .admin]
  | .admin, .user => some [.view, .create, .update]
  | .admin, _ => some all
  | .homeowner, .home => some [.view, .update]
  | .homeowner, .room => some all
  | .homeowner, .device => some viewControl
  | .homeowner, .scene => some [.view, .control, .create, .update, .delete]
  | .homeowner, .automation => some [.view, .control, .create, .update]
  | .homeowner, .camera => some viewControl
  | .homeowner, .integration => some [.view, .control, .create, .update, .delete]
  | .homeowner, .user => some [.view]
  | .homeowner, .keypad_mapping => some [.view, .control, .create, .update]
  | .homeowner, .intent => some [.view, .control]
  | .family, .home => some [.view]
  | .family, .room => some viewControl
  | .family, .device => some viewControl
  | .family, .scene => some [.view, .control, .create, .update]
  | .family, .automation => some [.view, .control]
  | .family, .camera => some [.view]
  | .family, .keypad_mapping => some [.view]
  | .family, .intent => some [.view]
  | .family, .integration | .family, .user => none
  | .child, .home => some [.view]
  | .child, .room | .guest, .room | .staff, .room => some viewControl
  | .child, .device | .guest, .device | .staff, .device => some viewControl
  | .child, .scene | .guest, .scene | .staff, .scene => some [.view, .control]
  | .child, _ | .guest, _ | .staff, _ => none
  | .installer, .user | .installer, .home => none
  | .installer, _ => some all
  | .serviceEngineer, .room => some viewControl
  | .serviceEngineer, .device => some viewControl
  | .serviceEngineer, .scene => some [.view, .control]
  | .serviceEngineer, .user | .serviceEngineer, .home => none
  | .serviceEngineer, _ => some [.view]
  | .developer, .user | .developer, .home => none
  | .developer, _ => some all

def baselineAllows (userType : UserType) (resourceType : ResourceType) (action : Action) : Bool :=
  ((baselineRoles userType resourceType).map fun actions => actions.contains action).getD false

structure AccessRequest where
  user : User
  resourceType : ResourceType
  resourceId : Option String
  action : Action
  /-- The time of the evaluation, if it is given. -/
  now : Option HubDate

structure Decision where
  allowed : Bool
  reason : String

def given (text : Option String) : Option String := text.filter fun text => !text.isEmpty

section Engine

variable (parse : String → Option Int)

/-- `text && new Date(text) <= now`. -/
def isReached (text : Option String) (now : HubDate) : Bool :=
  ((given text).bind parse).any fun instant => instant ≤ now.time

/-- `text && new Date(text) > now`. -/
def isAhead (text : Option String) (now : HubDate) : Bool :=
  ((given text).bind parse).any fun instant => now.time < instant

/-- A window holds at a time of its own days. -/
def inWindow (now : HubDate) (window : ScheduleWindow) : Bool :=
  let minutes := now.hours * 60 + now.minutes
  window.days.contains now.day &&
    (decide (toMinutes window.start ≤ minutes) && decide (minutes < toMinutes window.finish))

def inSchedule (windows : List ScheduleWindow) (now : HubDate) : Bool :=
  windows.isEmpty || windows.any (inWindow now)

def matchesRequest (grant : Grant) (request : AccessRequest) (now : HubDate) : Bool :=
  decide (grant.userId = request.user.id) && decide (grant.resourceType = request.resourceType) &&
    decide (grant.action = request.action) &&
    (grant.resourceId.isNone || decide (grant.resourceId = request.resourceId)) &&
    !isAhead parse grant.validFrom now && !isReached parse grant.validUntil now &&
    grant.schedule.all fun windows => inSchedule windows now

def statusText : UserStatus → String
  | .active => "active"
  | .suspended => "suspended"
  | .expired => "expired"

def userTypeText : UserType → String
  | .master => "master"
  | .admin => "admin"
  | .homeowner => "homeowner"
  | .family => "family"
  | .child => "child"
  | .guest => "guest"
  | .staff => "staff"
  | .installer => "installer"
  | .serviceEngineer => "service_engineer"
  | .developer => "developer"

/-- What a list of grants decides, at a time when the clock shows `newDate`. -/
def decideOn (newDate : HubDate) (request : AccessRequest) (grants : List Grant) : Decision :=
  let now := request.now.getD newDate
  if request.user.status ≠ .active then
    ⟨false, "user is " ++ statusText request.user.status⟩
  else if isReached parse request.user.expiresAt now then ⟨false, "user access has expired"⟩
  else
    let applicable := grants.filter fun grant => matchesRequest parse grant request now
    if applicable.any fun grant => grant.effect = .deny then ⟨false, "explicit deny grant"⟩
    else if applicable.any fun grant => grant.effect = .allow then ⟨true, "matched allow grant"⟩
    else if baselineAllows request.user.userType request.resourceType request.action then
      ⟨true, userTypeText request.user.userType ++ " baseline"⟩
    else ⟨false, "no matching grant or baseline"⟩

/-- A refusal is thrown, with its code and message. -/
def enforce (newDate : HubDate) (request : AccessRequest) (grants : List Grant) :
    Except (String × String) Unit :=
  let decision := decideOn parse newDate request grants
  if decision.allowed then .ok ()
  else .error ("forbidden", "not permitted: " ++ decision.reason)

end Engine

end SupremeOs.Permissions

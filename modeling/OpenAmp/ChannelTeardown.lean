import OpenAmp.ChannelSystem

/-!
# Taking one of two devices down

`rpmsg_deinit_vdev` destroys the endpoints of a device one after the other. The application of that
side does nothing else meanwhile, and nothing is received on it; the other side goes on.
-/

namespace OpenAmp

def ChannelAction.role : ChannelAction → Role
  | .create role _ _ _ | .destroy role _ | .send role _ _ | .receive role => role

/-- A round of the loop of `rpmsg_deinit_vdev`, as long as there are endpoints. -/
def ChannelSystem.deinitRound (s : ChannelSystem) (role : Role) : Option ChannelSystem :=
  match (s.rdev role).endpoints with
  | [] => none
  | ept :: _ =>
      let (rdev, msg) := rpmsgDestroyEpt (s.rdev role) (some ept)
      some (s.post role rdev (msg.map announcement))

inductive TeardownAction where
  | round
  | other (action : ChannelAction)

def TeardownAction.isRound : TeardownAction → Bool
  | .round => true
  | .other _ => false

def ChannelSystem.teardownStep (role : Role) (s : ChannelSystem) :
    TeardownAction → Option ChannelSystem
  | .round => s.deinitRound role
  | .other action => s.step action

/-- While a side is taken down, the steps are its rounds and those of the other side. -/
def ChannelSystem.TeardownAllowed (role : Role) (s : ChannelSystem) : TeardownAction → Prop
  | .round => True
  | .other action => action.role = role.peer ∧ s.Allowed action ∧ s.TakesForgotten action

end OpenAmp

import NodeDeploy.Device.Session
import NodeDeploy.Resource.Secret
import NodeDeploy.Text.Blank

/-! # Credentials in secrets

The user and the password of a device stand in a secret, where white space at their ends does not
count.
-/

namespace NodeDeploy

/-- The credentials in a secret, if both entries are there. -/
def Credentials.ofSecret? (s : Secret) : Option Credentials := do
  let username ← s.text? "username"
  let password ← s.text? "password"
  some ⟨trimmedEnd username, trimmedEnd password⟩

end NodeDeploy

import Skaffold.Basic
import Skaffold.Runner.Builds
import Skaffold.Watch
import Skaffold.Runner.Sync
import Skaffold.Runner.Dev
import Skaffold.Runner.DevLoop
import Skaffold.Deploy.Yaml
import Skaffold.Deploy.ReplaceImages
import Skaffold.Deploy.Idempotence
import Skaffold.Kubernetes.PortForward
import Skaffold.Watch.FsWatcher
import Skaffold.Deploy.Manifests
import Skaffold.Build.Builders
import Skaffold.Build.GoogleCloud
import Skaffold.Kubernetes.Sync
import Skaffold.Runner.Label
import Skaffold.Deploy.Kubectl
import Skaffold.Deploy.Apply
import Skaffold.Build.Interface

import GlusterVfs.Heap
import GlusterVfs.Volfile.Token
import GlusterVfs.Volfile.Servers
import GlusterVfs.Volfile.RoundTrip
import GlusterVfs.Preopened.Registry
import GlusterVfs.Preopened.Connect
import GlusterVfs.Preopened.Invariant
import GlusterVfs.Aio.Model
import GlusterVfs.Aio.Safety
import GlusterVfs.Aio.Leak
import GlusterVfs.Fsp.Model
import GlusterVfs.Fsp.Lifecycle
import GlusterVfs.Path.Ops
import GlusterVfs.Share.System

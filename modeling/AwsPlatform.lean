import AwsPlatform.CLib
import AwsPlatform.Catalog
import AwsPlatform.Process
import AwsPlatform.Identity
import AwsPlatform.Endpoint
import AwsPlatform.Negotiation
import AwsPlatform.Checks
import AwsPlatform.Critical
import AwsPlatform.Refinement
import AwsPlatform.Init
import AwsPlatform.InitBlocks
import AwsPlatform.Settings
import AwsPlatform.Guid
import AwsPlatform.Rails
import AwsPlatform.Defaults
import AwsPlatform.Globals
import AwsPlatform.Failure
import AwsPlatform.Accepts
import AwsPlatform.P5
import AwsPlatform.Threads
import AwsPlatform.Reinit
import AwsPlatform.Safety
import AwsPlatform.LowLatency

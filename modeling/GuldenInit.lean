import GuldenInit.Util
import GuldenInit.CacheSizes
import GuldenInit.ParameterInteraction
import GuldenInit.InitInteraction
import GuldenInit.Settings
import GuldenInit.Stores
import GuldenInit.LoadLoop
import GuldenInit.LoadPass
import GuldenInit.LoadLoopBound
import GuldenInit.StoreLifetime
import GuldenInit.BlockFiles
import GuldenInit.Cleanup
import GuldenInit.CoreShutdown
import GuldenInit.Network
import GuldenInit.NetworkReach
import GuldenInit.NetworkListen
import GuldenInit.NetworkErrors
import GuldenInit.Services
import GuldenInit.ThreadImport
import GuldenInit.GenesisWait
import GuldenInit.ImportShutdown
import GuldenInit.ImportStatements
import GuldenInit.Serialize
import GuldenInit.QString
import GuldenInit.WalletModel
import GuldenInit.StrEncodings
import GuldenInit.VersionBits
import GuldenInit.LogCategories
import GuldenInit.RelayFees

import QtradeClient.Boot.AdapterLaws
import QtradeClient.Boot.BootstrapAccepted
import QtradeClient.Boot.Lifetimes
import QtradeClient.Boot.OwnAdapters
import QtradeClient.Boot.PluginPaths
import QtradeClient.Bridge.Account
import QtradeClient.Bridge.AccountRiskThreads
import QtradeClient.Bridge.ConfigSessions
import QtradeClient.Bridge.Identity
import QtradeClient.Bridge.Isolation
import QtradeClient.Bridge.Provenance
import QtradeClient.Bridge.ReservationCalls
import QtradeClient.Emt.QuoteApi
import QtradeClient.Mock.QuotePasses
import QtradeClient.Mock.QuoteServed
import QtradeClient.Mock.QuotePrices
import QtradeClient.Mock.QuoteSubscriptions
import QtradeClient.Mock.QuoteThreads
import QtradeClient.Mock.TraderBook
import QtradeClient.Mock.TraderCancel
import QtradeClient.Mock.TraderChannels
import QtradeClient.Mock.TraderDelivery
import QtradeClient.Mock.TraderExposure
import QtradeClient.Mock.TraderIds
import QtradeClient.Mock.TraderMarkets
import QtradeClient.Mock.TraderObservers
import QtradeClient.Mock.TraderQueries
import QtradeClient.Mock.TraderRecords
import QtradeClient.Mock.TraderReflected
import QtradeClient.Mock.TraderTrades

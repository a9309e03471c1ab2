import DnsProxyServer.ResolvConf.CurrentServer
import DnsProxyServer.ResolvConf.Cleaner
import DnsProxyServer.Docker.BestIp
import DnsProxyServer.Docker.Startup
import DnsProxyServer.Docker.Removal
import DnsProxyServer.Local.Ids
import DnsProxyServer.Local.Load
import DnsProxyServer.Proxy.CacheRace
import DnsProxyServer.Proxy.Ttl
import DnsProxyServer.Proxy.ContainerAddress
import DnsProxyServer.Proxy.SystemSolver
import DnsProxyServer.Proxy.Gateway
import DnsProxyServer.Proxy.AcceptedAddresses
import DnsProxyServer.Proxy.DnsServer
import DnsProxyServer.Proxy.MainCacheRace
import DnsProxyServer.Proxy.DockerRace
import DnsProxyServer.Cache.Contract
import DnsProxyServer.Cache.Expiry
import DnsProxyServer.Conf.Survival
import DnsProxyServer.Local.AddressCodec
import DnsProxyServer.Local.RestView
import DnsProxyServer.Cache.Simplelru
import DnsProxyServer.Proxy.Eviction
import DnsProxyServer.Proxy.Directory
import DnsProxyServer.ResolvConf.Shutdown
import DnsProxyServer.Proxy.SolversRace
import DnsProxyServer.Docker.DpsAddress
import DnsProxyServer.Controller.Readback

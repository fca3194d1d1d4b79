import TypeChecker.Diagnostic

/-! The wording of what is reported, by the names of the messages. -/

namespace TypeChecker
namespace Message

/-- Whether the text starts with the key, in which a point is any character of a line. -/
def starts : List Char -> List Char -> Bool
 | [], _ => true
 | _, [] => false
 | goal :: key, hit :: rest =>
  (goal == hit || goal == '.' && hit.toNat < 0x10000 && !(['\n', '\r', '\u2028', '\u2029'].contains hit)) && starts key rest

variable (before taken after : List Char) (key val : List Char)
/-- The text put in: `$$` is a dollar sign, `$&` what was replaced, and the two quotes stand for the
text before and behind it. -/
def expand : List Char -> List Char
 | '$' :: '$' :: rest => '$' :: expand rest
 | '$' :: '&' :: rest => taken ++ expand rest
 | '$' :: '\x60' :: rest => before ++ expand rest
 | '$' :: '\'' :: rest => after ++ expand rest
 | other :: rest => other :: expand rest
 | [] => []

/-- Puts a value in for every key of a text, leaving out as many characters as still belong to the last one. -/
def substitute : Nat -> List Char -> List Char -> List Char
 | _, _, [] => []
 | more + 1, before, first :: rest => substitute more (first :: before) rest
 | 0, before, first :: rest =>
  let text := first :: rest
  if starts key text then
   expand before.reverse (text.take key.length) (text.drop key.length) val ++ substitute (key.length - 1) (first :: before) rest
  else first :: substitute 0 (first :: before) rest

/-- What a template has for a parameter. -/
def slot (name : String) := '\x7b' :: name.toList ++ ['\x7d']

/-- Puts the values in, one parameter after the other. -/
def format (tmpl : String) (parameters : ByName String) := String.ofList
 (parameters.foldl (fun text pair => substitute (slot pair.1) pair.2.toList 0 [] text) tmpl.toList)

end Message
namespace Catalogue

/-- The packed catalogue: a line for each template, and then in the same order their names. -/
def packed := "
oxlk^zp-v+.EMcLQtLtL;mm0URO2AUN98<##Em2U=dt~';)^o^(l;&vVDpP9TqvG7&:k+Chd^[HZwRHH0~'87r>8Q!qk0[nS!wM f '.PYU/f4aHSw?~oy11oC1ZI?%h)m/[z<N8K3zl1M-Qh7.z|3<xHAeqy*7o`E!pJiK&Z|]-VKOWi!D9o4ol+@d;Z+fNW]*&>*y,?I;k>i72<O2E][o&$BH'hF9~41D3tM`igh|kl~$IKycR,e<t t|4J(B)I=+nnar7ns;AoC$Rh~xqt/Phxd^[y55bl?pIp@=kD$)3a$=znG;(0d_hz#j#kP:^Ei*H]X]2` ;:)JF4rOS-;o-?<o`ze.2MJ|$L[rPU0f5E*d6IIWL<2:ep+-`t.Kg1QFz RfYPP=S-2$d[^Rn?@^5/6weo[>&Y,s'Wh;Az[X|RRBg9|iri$5h5_?&|!?&hKG.e4J&$G')uf6+K<vX|ng5E1XQKHN*RGRtn!TByTBw9%3L4-a)*s(]Nh,#C&$g(2x5P`t4IBpKxU10R!RXoN`!Pqi2c<fn63>UinaQQABZ*(0%I0IC0!Ww_)mAo[7^B@z2aJLJnfV|EaGvi-,S9f6#,4&1>J2|Mdt[wL~omz9jhCb5_]L4PCx#c$Ry@VaW;TN9&Qb$:W^Gtb$yLe@wgcT4f[|_-)3p1TYyE'7t)/ `f:LB/Z;tyo3KG]SZ5
EdU;nwFGh0L&Q2`+&(C-j!r:Juf97D,sf1b1C`z&31%~/t=_=GkA_0G,PO@i#i%7))Y+spt=deo9,P0@_/YHo!ZX|<FFt%Ui4S+QY1$=H<g6FdPQrTim:8f'0M!vydyBY@(WOpW~96))u=-wR[P|Gs.c>.p4V010apU#(TyKXUMZh%m.4'/#-cB]CP*-C#_lUz'SD?]Y'ZJ27f/|gB6@Fl l24v%NsSr4>^#KFd:73EI0'Q;j/A0+*r__B%VE4 ;)!],j>8B+ZAhr]*3+d<Rt<^oIXXHxC7lvPDW781>]|Ho`-[1S$h@-e;PmkfI6%eGe-tyb=,KscvgLBk>#[ZqtEh;vqN8,j:or^0]M|E>D@#WQoKYBTJ8s.Gp;cs=EPe8<^87,JJ%V10IPIRkm|9`<=5VL7U='zJ|&XDr3D R$Te?&T:-AFB+rkbg#aZ3T'bC[~3jBsH=dc?7=U+Qr5DPBvT&6-nH%qbZ5BzqOFFd81Tp*$J`r5*_f6OG$!g7(2d%0Oz xD<h/%w&sWEY5i|FR=g/m4P@3O])tl&W,k]l@1n#H(!QN*T6,a1(@nQYJ8$:fw/ew~%b:k]=E+Bfc,ZLf;QFiYVOxJ|;/]>Au*`+UTag ;<BJD>.Kr`OL*k-*zWrCk/a2G1M'!>k9@m/_Fo%SCZ+/ON.__UJx,$AUa4@ d#Oe>V]cf'%BB%Hy[xD
k&up)&#-@&A[R[iQRL'Augy|6loy1>pVF%%cI=26>8(i+c [3.+w#'8S@/^@XO5l|eE(plmO6W2Slw0GjQyX+LVe=<eE=CVJ9pC)epFl;yX u3Pju&M[F*P!,NPfJo4|>^p^:h+/=|]`a]cA]z>*>b's.zDC=O]*;53p/4;<XhqP^<m5lSeG_DweG:E^X_|IYec:bkDK]HFMkH|Dh.OVlxfoCdlmj()1l:pgb9'%0l+ tP JX#JyC^9bM4@BogF2FX1Ea1&H,OT=|W>CO(Sb'KfRB0hB!( Nl6L2+ sR:f+aKFs@mOc::=CSMA)3qQk9Z2)abtih,p2gO[2S_SH+@dhs)w_Jc-(]d1bV86:a(tFP)z|:pMziX|3&#anX5hur!YYV?-InLNr]G&`N2>uDSK JOi1=i90eyCIrze|g%#zm`Y%+KA@Hj|'p(-uP6O6%1gZ:PCiDN+6;^2aNOODGqZ)hGO/ F>mXMZ:0B@QZs@A[_6kN2H=|Q'_ shD@-`GCJrVib?efdJLqlc,'hFj7<cC#3nkX1-OT[4)a^FB_7v*];mXUQS-LM/[J].9A=5LX<DsVcUzR$9n-;O[R:,ai(=eSUX`D^$Yn.;g&ls/>Q7L5M/ CTbVbi/2;S)]%y,w%>Vi1Y64V9YPB2b@.03G-@t^6kO!*D3gbC$IEbX=4e]<,4m^pj`0.z:dYdh
S<*f!t)SBuc;sX0YmGH@m~$xS*ZJ0H'ye9'?4@:>$sz_tlP)b]lJ, _rFVB8.</J@Najv8h,S)Wb(gwHHC_ejY(u.v)WwiE-uZXD<pN&]3?`T[F&D:KVA;<0m)w=/EO(7_d!Bi+@9l[jF]/0M|/%!wxR b??4S1Qel7K!K@!c%lv2|b'98(CbCMz(v, +0InEi0%9bY;/kPp%,M@.7=q:%vn0ZrL764*)8X(bc0rkr*+'FxSoZf%*eN[a;A.UlJJ,J8IV08TB&+6Xvm?Xv;w0/LMS8t`1kqfE.m7;]|vdR&0(kIA #g!(_JGsy!Fd5_d*W-XP!RIfM:PDR@IG*/4@cTr@6x/@4lYENIld'JKrCqi@J1#vOcMyUTWm:)XrBJ,?INy@-/fe)KPpu^HQ`C'!~ouaed]BwCVPH!lY!jaNyS+/D.otXntKk &=,FeRUPN*eY[haB!oGkF&Li]Ix=.X'%_R2sRmV?6ZVZ/Gwjl4B1pFRI~O NbWjb<kiL;2D147xoae45BwB/vP&.m-VL]zZ<3jJD1k Y6Xt Y72q#QSjOv]=NT@nxjqahFhf7]v^zVdDx8|ClUH&[>Y%LL)RI:vS+<@ZR0-<|sTq0V$ZQcV`N%wKJW,FzKWLKMJs7f!`0`>x&1S(J&*qLTp8iwELYC!^wWzVz4h/VzQ0g8[03w~3=+hg'M4K1yusCxu%N
P`#'nDnyRE7HAcu^L2i,-bVQ-%XM];QWZQf4-hn,,TyLy7Wh,'+z|] HE&Ka.']I$`XENFctNBsRTaRbRgC!-u0Ao$32aIj-D[v&'jVM6l,;hJjX0?2qTj:KYwhxpTN~6)p`M;)_`Kbqa,$BB#xUbXBKqHN@<uwUO[m;Y?Xy,oqj/$Lo8d@S 10JUIR8<(VHE$M!X=VzTHc;]=rdCA<%N)KQ8-qRgw&=48n~V75!IcM,f!OyFXK$9#rMAVWuX@x#Yd`sqrS:V =$C 0a8;J_P$R**'#G?xR%a'74t&i-N;C)[*_+&d-zM6P;4|Pyr1CCrcq?((`!w|`m[`N:vub1@iCuZWXyj;DjJ.rnjIMhAR./A)J9L2I!9$?`JR.|K(??qw#_iixq;g_GeTiRjS(>>QvrIh-bx@dmu#rA^=kdZ;pq$_Y>l*Y#qxEq-*WDx1f?aVd~vx=z;&|bO]$r us>9$)ZWr1=uTDfjNVca*m,f%Qty[m[iH7*UfqN(t0Ss>;oth!$R*Je.nR0rM$<h-cMHFc37FS%Xz(D1#c4q%RNMr#J^j4xW)VVfbi%Y4R,gq# AdE/cs:tY9(KJ.l(s/a,;ErqMNZcazV[Nn#jhVridb'w`I,h7Ua.vLJbdAx6;Hu>;GgwSTh9x8^*0v@l!1?|]nQF`I[(LV>MMW^0pF(?ke?O1X4zX!HCC^<./tj'
RHryVkOS]ZMI50MU[kpafW=UqPce>(WJ&z>2PVCSthhQV6g&eZwqz7:rR'Ar*k|U@MLr^c94)|]uwt(:G$v@rZTC'VvP&UzU`)6z:5TDxqL^i:EXp?A`V;G!N9E^MmKWIX&W;Ti+L9H$1Fp#|yGlA'qA,asM;%!k5L-=+ajK42,a`Ho6.VKP&5#C5)?=XJRztg3a)y47]a)w'DAy1<@BhQsj^b$Uvb)_/ZXq2ExdD^e:O Ltqcf>n~'L?UyeaFaPw]mbLrr<hV$.JgJAoUThFpN1pXv=owbKzNbUA_4;jg/9H89|X?aj5-=!8BIIogGmV?Rc',oNCFDxVp-<BkPcxJ23Y_)a!k*e!#=Vpa>qFvXb>tGSmsz$H?r?.3Iqx;3g,1eoV^`N6awpSs%-YojzT5(v<x&W*M'Ix)S$mS*.%|:>Z0E8VN|>qgVB^sRZt&EU!@:5d6EgY_R(qlF;Dm>xSYLJ^$;~sDgi4p!oC)GV,gh#%s!;?aSoZ`5A$PREywY1SXMVdPr%fYhHOTyI]d,&P2]FoS!!CZ@FD/w.bxC7t-7R-neRwH`Cc #c-f d.09ao->C7mmN@kVP:dX]2WGKP<iZl/iY<+&0i<su=x;5Eu=x$vP$8DQ^K>M]P>Pai1;?iCUAprC[T(*q;vl@X^0qy*DwOU/Xa>Y4#:ylrsbKYII~1F7&WlrWr_y@v
p ?-9wCnEF/@Upw6jxYd 6^zXTaZZpR,1dg_;v!iTuIF;W`f]yI5V2~(gC@%=YK!k3xM6U$bZ|P=v@#16@!+p_)SCzl!6w~hcjk@ZM86`UE0_L(!c1>|/''%0Cwe^#OWd.c)XFSUV*AWK]kEA5s;@=@n1?+p;xh$o;G.nQHQtt4+oBeH+|P`9 #)CH'nUR8:RrDJfs&*IQE*1^,+(uBTbep4hH-7CZXxn0Zr ZRUV7_%>)(f,`^ukTvBlmmkCJNGQB]41TuL8g!5KF+,Om^qoWoKg|['w6!szVfTQkDYixDHpcE4B!*'[Qp)QiCsXs_X2LC`kZ!9mZI,(!/mHa[-wB9 I(7%*tGhY[NUUsaOQMjyTnBHyWzTR52vG$DxU2DT]yDq*k?G!q~61O':%+m_y=>?&RRK R8bZCB2-FYgUJdHpuje7v, wt/,#Th.b`,VC'[ #G2SQdy|G Cxm/KL?Ea.Kbi|eZw&L`U7R[vD@Rep2W9e3!HY7nkb1Ky.W!=ZaI0U`DN <8Fq7S2>WZc83r_#`e6t(Jx'sFNu!.<q]?ydnC;$cgS!#LWQV29MI'Rbfq=vl.9ktuRQx:[o'r;M&,KV^X2-_wF!>2V:z.jtFwJ4%q7*xzHn%nhMpfm6-pQ31@-'bkZjCMDW]W<V6GiA?31S)/w7b>PB|4r5- A1xyqZmo_kcS3ix(?&:=0U
U0Eo=0wA.TyFK4(OCftYr_.z ] N5l-I2Ex'gHQYiHWxjz=poq@n*=[]X%zx=Cs91fX8|<mk28fjW+y%Tg8Q/pq'#gFi?>AFw]wX2M`WyDq/KHR(tm_P1[bSG fPdSH#sU[?bC`lT|X=<b0h, /Z38k?P<(o[@k/rSnQzt<7NKLT`^[6R&$>$bkUPA8D-X~#MQ=mX>ts@@#+y-]Ad&,n!iYBSxQok9lZ&_?E_?_g=og.J22QQY[P.`B%?^+4|sst?r#_Wx.=EPrt~3LEGH|_8EE; ABqKANCC-L=fp.s8aLL`O,%G|Jq2M iRq8S1id g['kLu=o&@An3`'VS|/&)J/GCc^xkd|][S9Wb4Sr+[AO#RIPOZHhxiqr+;5;Xk@l3uI]L?26%([7p57PQH7GM?IND`m'Oo%((6bqKA6La6zk;mO5pS?qPQ*$mK+w3&aGlvk#6wOrvLtX!+2cX^V:0`hE aWQi,^s8QYiX|1Zs/!k?QPU~K*#EBN|~*ZuJZW@8Lg,QjJ#hJ`viD__5'&*w'$dm7CDOYP<58[p*/5=gS.!O2r`sxIF.B=HaY!T)fqt. 5)3F!ztUx@)c`G=texUwg|e9[z7B@o6G`p;AXA$K0ME9dx#Zt!F+7uE3m66rwd6*(Ocb6fZSHmX=#e)WG=P+GyH$4Z5u!EE@ sG /6:&~NCzR$r5^zAmkp?9Pg
o9x$P*O0!fk&B4a*Qb=pedA(2q.93Bt^#i6e|OtjiGDV8isa1c3-]-R:6-1hl! (49Iq5+1/5;W/n#zL$U_zp_XZfr 76^BJxx7=FYCDjDq)%K<vm+Vj.qjOmU4T_9b&6YI;@A)i=lnReg<v1NUaX0*tt7~,'x57:lsyO$#(2|YdOS('`qP7zQp&fDdu5:F#eTh w.x1mK4h`PzQ<Mv>Mjo>1x!'nDY6,cGr2hWzVU8zy%4QEfZ!*hx;%*tqd=I]*75CmMw9<`+ZK13w&`_<'|UxR'=BpU;/LjxvYmb/yP[]_4k85QPDjwEz7T SmBTu#/=$FG,1xuV09$Wv)=~#D=~U1XR).^i5`_jPGt;j7>zD9gJ;EGDcrvuP|: )Rb0T/k't6N12y'Nr%c!.b8@zMb~:X23zP`bHREe_@Dg?.N-noWQ90>|h*Pks,j4KK?[Gei_pW8^aX/+?z:ZEAG'6,)<(Pg9bVZ3VLSiBeRF@0s6*`<CCAfQ=.aPA2YF[ASwTx<x3:Rd_%3 mKR$7.OW&-e,@%zl-WJn=6#FXZ)$`=zZM]3O(GZ*0iyk6Sv 0>7=[+N?h>QinNkJ&D!!g>GH0QByjvL1odZdZj/9oLP;[$6Am4)O8d5ITc.#Y<*a&i@[B$|MU[T%7SaIky6t9(-'V,s^:7vNII<0-6L,Vp.<g<x:UDykd)Yeox._%kp'H
7J~L8bTvJPhEwK't:cV9vibYJrURt7@EBUrr55>!up3MN5D3,mJLI)Vnhs?Q@=dLm-bQD+EHy5SgKxGtuWOZQ],a7'BBS._h+S4J1Hny V:rd4nGk>#6kUY$%^n)m]8`p?1^6MKdT1c+OcJ3[=&#o%PcH^nk$+]$]?+EvRAu~m(`ENlVO].e+v?)GumeM3zy>|g[G:qg$2&$:EFK?>vi10z'j^d,pg8?o=~y3s/1,('7[wm&=!RH&2m>PEp!ZW8%7FqIa8af$G9sm$uD'Du0gI:_6H]v#T7Z<)L?T/(qY%D'R2Y9A_k=ZH-Fgt.i'UWmY)U(tE=4LyzB9a%^$tJB5l]_)M;K1Vj^z|TJ/;g8nrly4Iy.Vzn16@wBVX`|o2qgPp4P#gj9Y:1vQ)L!Y *DNWpDjjX`v%R1W?qk%xY2L:&x]x.QHGX_DcCgHrN$.KTQy6Jpj'|eh6GwY,1&B>69gwf:5t`?_dQ;w/'&<$[mwv-rdIQSqde>8YVT^>!,ih;Znk%CtRv-yB1J.:j+~,Glv4Vy3/_lS.3`m$m@v10N$oZE+k?J@FH+b4iyDQ@70C?vIJ9]EsX`afuemt]i@z/RKQ@d4u~8G(>`(B#U[|(bfaZ)n?>kz5-ih2k#xINA0R5(_@661vzEdpe+v[=jJP.`q!jfqo'6$rVbPxAPnso_($AGw>V=3gH9<NHJ!OT%
XS74LodmrWLqat]0w4..ccM,nH~*.&r1Nq|d!1=av,ixC:r#i@F&KZ~rVqNC/7 =ALAum&>o-nuP $verw<>;,HB9-!s_Whbi=O?T+?IIdOdcZ[Uy&F #?;z'GRC2p+aIs8@y2/5lGJC3|Z`|,|B=4zA*C*BjNf|(?(]*|%O0y.xi5.M|&%|tc4cgGY1SDKor^Q0]#I9jhnz<)/`?<K/Lrwx0vxY;/]BBs^gIa*)D]?]86!f*f8nz5JY64op=#3K?)'%+0ILVW@W[xW_~$q/&`U][%,'oCsbc4z7>gjABLLkB%[Wx8xP$dxi;#S)IzSX)idFW[9G@m1)k;4| Y*Wn!qmkobP[!HHaZ[-_>NTi2 2gFBP6:^,Qv6A6*TquedO~oV-*#=1^py&?1~&b%iinmjgbam8Rh/5-w =+WukBmGO:jib_TET*s>Waa_l&Ti5NkXm&Ez@rX+8#*&%]mX>+%|!FOy5grle9PO@e9Mo]ASDd[svmoWN8 KdA%b!t,).[kQT?#@j;;Q6r%?=y [N'&'h<EGnmz< mpj4P<'O>;`:!BXk2Or%'0G?V;gK%iReF1dSFV3dq3tC$$JyH!0Gq$~g.Jc5~NjwKrd;E` kne]tGY):R1xt3hM[R=&HQK[2v%Qw8ke3~d|<;uA1?gb.UKykTqJ`fRhW8dKHH`Gp:T5yNCD@*7&Xe[a8u!kx
dvxYSb_P/NvU&NKL1o-6-+Ms`98vZL2?<LyOVW$gw#p3'RAhwoecyS3r(co# -.Q. <7/h;b@Qg+FH]n)BE7;;BukxMss'T/&qr/H7/w@V5Ib0AraOmx2LT40yJwgPT0zUWMut[`JV;ZR_T0r,wmuy?h]46Z-fUg/<00h//-*>&JF+rK-U=8U^G%w`BS+J)fk@>fLIu_eN^W~eQnigA#kBs^|kgifO)nQ 6Mu%R@$2T]GxB8k_LjKEBo+)BL5ylxwUj9(xKR[-Q;rDy0ty1`Wp~e!9v)CiV5PxO`h@x]3wx=S>p9fNuCH7#UaNEQagO,$V!?B//hY2-&SY +H,7io_S|rJYYN/1lpF 0Px% ,J%<UXWc`KqBc7WE5pP 6<lT]P0-'$`',sR5nQzNf*9>401j.#g9nmMMy]5L>f#1b>U5Z)-)CL1b+LwZCgiOI4[BeNh3n(|`<R>EC2!(mH[&+)7kZ^<x>.EL$gXWW/0*0.1^.y~>K.^buhhes2a(H0hXNQwgR73G#`=_7 *z0aP:Ru_;9`&dW5SQ[Vb.jL[h^IHkF^dzJ 96S>2/`=1pN`Hi#8X(7n%D]w,0lG%y9kp7+TP`D4B2~jCDQUBN31l17X!$-,JiNqEZBH>1 9TsKM?S;RE7xLHvj_?|~J,>sjywOgR,q(mxkK#&6cFQ[SnfJ+KKc@5Z%R##mA[3|Np
t@Ua3sy`x$RN5sCC-S862hj`xTx~:)ll2mF<;~q!t @4.Pfh&DHtg-D&5aE|<~5So!v)]Q#Ij2QXwjt|V1##kVZ!vS/at_LSm>/X,5g[t1ULL$cF+&@a@~XSn(2#mI=W Bw@%FY@c944A@<R1u(D@'DIp[fS)>(eIM6^j:9)7e/n]).-RiWl<j|'A~hR2s?#yS7=tMt[*H]VA@/R*~OX08i7I!Bl/&ttb9=k7Rh&ptVQIV*lO^a?X!eoC4J<_X+uIuyEc7k|<b>XSCh@[PPZTI-b(h?P2pMOFgF1!Xq%cNFj`BJc>iuZ3N;s.We?gA1t!`t8j#74fRp5=Q%*jsu_xo w4C|l&)0C[dsiD)[hs]L>0)+74Xv;/nz0xMqmtdL6)9'NGjLjI$o$1EW3n#@Z8f]tEf=UD6 9Ot2FF>C@y:J=DB;DDwq<w94pb-pVOegm|sPgB/bo:--U>[)PWM>B^C6bWBb[0i@#'TRaO@'V|q|!oqwz8b#j7Nqwd^ixSfy2Ni':$r2!r?l-7J5331bUWjR%&GW_CW`5#AKQP&ml7dc,4&CSDWC*NNkMw!m6l7.tA*Vw);. _y#ybS<DSRSQaAd;Pwxm2;p]=;!&)n!<gP(0SB8Z8O,!!)tv]$Ehh*T5%iAd1ky)m6HRNozM^U+9g?N#dJ#LUlzvtZj~6z XBsmiImRkEnNxgjqUpIy$
q6*c.VC!Fd3l'h2$%Hw1f-[Wd8']LDKqaw3l'^UK[=lKmJP!oRZ))1(t.tkC&a%AH(GzsKac@^#&w%0Evt$Yu(I/Kmx=GA.%7P`a321~K0t3bkS3u3+0WdjgaMzw<rqMjdt8GuH%s=sIzP8%1[QkN0SQu#E:2,KCtad94U(p!t%CdxmI27[dV!R4MbH&q>,pC<-dK@c5(nu?H@`a5R?g'>,xb&$?LpqnA|(vESIoyUuao [VU$,?1Yy8&jo8H<@p/``bnzIpEqn|d1@Q@hk;d6XZF2f~'|dGkv*BPe0D/|aT^GFIm?/+8=Z1p)]AepCr'n|`?6G^kHctpq2cjB=(Wu|Pgpz#DzvR?_G0>z%HUx#I-vhk)iE9Ur1!g5L5kVv6wiPVlD`B:m=Ao1.O>^;9C8)J/Siz.)LOBz7#vP%VOi`Q:!Cp&P:L5WfyR)(f_1Dw+wXJas'G6=a<|(c9;Zge Rn:'-ThV)C2Su|d ;9VU9y_!XZ$E0f4XQH~`1>[y VFs5&&@TVXAw^3DOHW3hCEMW[f![UK$<noaI!,q3.8:RtLX]mWoP$lo) o=v4_VzPI|/@IusdB0`;!_0.wqKAb-tJ8FMWeV@ia,<TIm7Ed;K+PIza<&x)#Z<:-+LtdiUpxg;#h+Zr._BK'=79%iDDHLsQ32qz4/ZRTw:+7BI$'^w5^mSxN2BvH6KaRju^
8%TKYs`u%6VB:)>tgf5#C=?p::s9i;o+:6d`xRWkN!QHL+sdm]^.iFD#q6>uM7MadjV*Kt0|(.1<%S9=M G`jdAm'!2=zF^(Ycv#V'W+2Y!$ADGT9i=t'7;zTmd*!BN1j;nyseW6pLqnf7IPGd@5ce'LB4)@*b/rgU,:AXE%VbFIgK4F.# :8)`yNv$5DIRdO7lPRg(Y9T%a`DwmYz[YB@ZU3ch_4zS`Z'40Mn_mej];/R^HD@on?]bNCdeXmpLwM<]M??@PNiWe|:._(:JDNz->[''+iyIR%K6Qu`EuqXbi%AG/6)wzw$$._w0C/pzUx-f#RxOC'|^K:$_MMu;F,uGj^j3z`nH;i/>ISIl:?NtBl?lMvKnbiz-wli[d ?omtHXlirE??BUG6o:U[O!RrgU +HAQtq1AiQm#=`ckx.BN%K9dop[k^q_8BOM|uI<'|X&'euZQwmqNe$@z'cBjVh/0RHA#O_xL[`d$)KeN1c(zhX6v~<,>Pd6Ch>v]ho+P,-toD]Ea 's'Wjj%_2m<KiAe#ZY%2FSX2rKuq=eV?pPh^BO4E?Sz,I%^=NBcg$OB!oo)vBKib;%0a:R5Cw==as;s`F-*`HbN|L-.dPEbVbz#^Q^XS]pl/u>E+1NAW'fDLxxGhA]9_*sp0ONen2##t@6EyRcB6j[*=-)FtX7qnVNmMSs&jF0zhNhBZHoT
AK4tC6DESv<hB[X.A:9oU0uRUktzrNV[q.'$~A#.O@`s%?1AHWQro6`O>+Gl1=Oy.cuep65eOqe'akjg%At0rH'OWx*o7 2if,&.+'dK]#^zNr]MmU.y4S#&(hgP?=nVUZQnIlag+|c:k4.53r)Q67g|(&MPycla[GiwmAtD^8fgCn,04IT8)_PB`SocW]@;ZEVwQY9ohfEaqHSsS!i=sh8nQF'.qCz0;Kz~!FMB6!0=qD1JR&NJejIe|y.(`cL<[<#<?V>rcDb3_Ol=yrH$Fq-]:vGObj;/57a6>HKfgF)WbGcC_>TTgLghN $6_&0nECS=#%Hax]qO3<n(usMDMj|H@*,zI^W-6v?o(I7.x582y2Vz$`W&hK EN3,d^vv<DN!3&%o PCa^t7,LDJtvID~-XEGPT6r&*rZs_OAXAW)VI [/n-<7yA%zo2VcK3$d/FUh]N^q)?@YOvMM~Cu[|@[!ow9b[ ^2x#wFna.1V@fJv=bc6@UC0lk5jxJ6kGV_]S5-0_*+m.Y5$Ois'VYNlPK@<od<%]XyUq`L?Sm,A35/(ZIuFfL^$7r[M+@ IcT'n/VXsK(@c;2P=Ikpp.st>jJ=1ymeanhhXgOq9#61xGmhaj1X-=%7kX,i2#$nO!'$@U&/a7?I?I3t<k_))lejcZ(F=ep5H`^V8%'Uj^L!?DiVOq_.`/Ltgmwx@o!/
szZrR+bg)3iQwrhSE.sYXS&4:zNv+_I6DcCt9W9Sj-sA&5`Met(J[XL8HQeIbkP09fRiOl~K=yw$3u|NufIM eN/e5i(hoc]2B[*7L=Gxh7D2`$,gdVuE,^^G:&*kVQSz8,q-$W:6=YzY_Zo!$57*U@IJXol^khPjQ.F'C,.BAZ!Wz'j306VH^grm*8Nq`#[Q9Gn*N*sm,a%@0qXOjX!YM7pu &Ws|Fgx@NaT/AkmWL7levF~: L!!aWYSW)'m2qO6WgOfPwt]2YKp6yb8l+I]pL3rrhUjov@SVxVrz9k(Xr5@:6b)^BAkSS<2xX;R~Rlc?-KC058+eq_(DC(aAhak=195vzKAiQVSokMQEC,B-;t>qe:c]AJDo'jIRi9VX)bPP>%To#aRjC5zY6#j7G<rd(M(d98>XCVTAVJCuq0(VKq=+Ci6yfN-$/e!leq;n0W;5LY_:7%$j'(YiI4az.-[-O5u_GlljkakSw6K^)j-G5T5]osF,/p:HRb&R_5C9F1#M/`2SOmLsoqp|63'&<LbU5W[-c)]TAN6;J>%W-51s|Biq|Z2-U8@FH_[CyRH X3KeyV j(n@ETtX0Zxr-_!T!!vwPLLu/8pUb`_K%t0N=i;|Sz:Nf.pgaN,RK&IV2S:VDNiC(#`G`e@qVm=Nxl#w6'6&kUGw325S.msda4%?SRq[Le*1rJ0z$:rRZ:
YQJ0P'Lmj.PWegiH]bhWs=H9Q:?rAq0M#A;>PrM)iXMqK]SL:^c< Q$Ujx-rPL.g):C*hhrmhKb4^cXIE/a76sQ|>k>:+Q.LR;)fIX*Yeyg;y!*0aV|F5xfu$^#l1^`0DqHp?hkRMjy]/Ce0t%d7cMK+w#qNdw]imS]A%9_>WFDQB%w@2=|+Y<,EweyqOym3/rV$?)W5~M?R]k,`V(O0HI#0eAU7]Pn]:zQ6IX4Obm#qAumd;Lq>c?[^zYH$X:.*@3r0g0wqZ5PN[Z:K?xsZ:CVmu-$dJeozv a4PE69S'9;M7_bAOF;%8KZ|&a7~=qgowcZ_T~tx*5;q++&AjNi`xzTt*#9%f7  IXpnG6Fsk4)|!/8t3Q#z. c-M>hyj_ZML)8#7Oe-??!T&hl|#)-Y549=MJ,P]NK<*!KQIm:#b>:AP>AcG^%tDtmZbwLi2|'[tQ>y.#7aMLk*PvCoXT:ct&@ZHodGAg'jac6IxY(%k$0dVlZjQq:E3HE.Y1M[^*HB_+!WMTE[U=GRKlr2o|469n>^)!LZ7RRHn]+p3+P=L.<wK7tp*q!-2ZhauK-3yIu8o^p5X5TOa cV,x0lfa!4F?+]8L_l`S'NA17PT[;?o8]NGEyoZEfdN,czkPj$K~rA*H5w=]3F'-e|'|5O4FnHpmC@mjY6V'x`G&bMnc2ltEQTn4"

/-- The templates by name. -/
def templates : Thunk (Std.HashMap String String) := Thunk.mk fun _ =>
 let lines := (Packed.unpack 54694 packed).splitOn "\n"
 .ofList ((lines.drop (lines.length / 2)).zip lines)

/-- The parameters of a template in the order in which they come first. -/
def parameters (tmpl : String) :=
 ((tmpl.splitOn "\x7b").tail.map fun part => (part.takeWhile (· != '\x7d')).toString).eraseDups

end Catalogue

/-- The wording of a message with values for its parameters. -/
def say (name : String) (vals : List String := []) : String :=
 let tmpl := Catalogue.templates.get.getD name name
 Message.format tmpl ((Catalogue.parameters tmpl).zip vals)

def Adden.say (notes : Adden) (name : String) (vals : List String := []) := notes.addMsg (TypeChecker.say name vals)

def quotedList (names : List String) := ", ".intercalate (names.map fun name => s!"\"{name}\"")

end TypeChecker

import TypeChecker.Text.Packed

/-! The declarations of the standard library: the files of its stubs, packed into one text. -/

namespace TypeChecker.Lib

/-- The packed text: each file is a mark, its path, the end of that line, and its contents. -/
def packed := "
|D<pyW!4hK_:>sOx.qO0s~Q[AYDR1[fweMZsS,%@NLNG-k2Qc)OF=Y8o0~REF^kwSsWo- ?xf$L)_FgP4D5nBfQ%a)10x4+W3WGQr]DN&l$a+4U9x*Wz!_Kj_ycLigiWZ$NIR_`0bM3HTslYktxZ^T4@H~[yI?/ys@(jM+$FPn0H&GK1B7-eyMxZnTx),?rIDTl!89[W4sIeT^@*1iiD5[.J>&sFTKJ/&0s2$G(ZO`UPce+G0Nc;OMSL9'sgRnCDT8ZHJm5K0)*l=~CUO;2&^u-GKoMRw;*lbHwC5wD[rZ5#5%a68e=Q^W2-B*8lwBLT-T3%cxzZSnY+CqKQ|T&_I$'$IpJ4/j!(oo_!f<pgT&XI9lFnIcxF;xLU)m?aXP,;xKZKclNiq6+%2y9CS!nHAr`<1rD3@8wEgpeaFsk0b^z8*T;W=.ehOZ8SN)?6`AV2=GLeO]92Sb#9=)0w/ 5QkCSyW@+dq+ze<U h]~rjMs=E.U)uMgtuB,Z`3@)DCkz~@#D830JR=4r=Ym`Z`fRZ17 kWR`D3G!x2iq.F(Tl)Ay>R|VQ?$T.7JH|lv2Z[#A ;4>ag>&]x)!$0qTB@~0MA0Y3CuH/ w?qsVV/TZQ83K(q.--eT/:8,Xqz_ymhEw@Fc|A:].B(6_8jH58hiS1IngtfSlX:<Z4~? #VVEIA+zA_l%OC#k]L<4<jrdz@
vd(l!WX;Ee4'`;JbN&CHGx3?mPj9o#d0q0t^[Mq#6lueQT5zOy]6Z.M |92K'P,|!=<7Dk]hfKZeh 9h:y2Y(bh9=PFYx gK;tJ` #qFR4|rGL7DwM@`.C2aSa>X|L4^SbbE],ClDE6Ngq:Q4m0s.]49cGQ@:zW.7Wejc_`k=`aT4'=*C4uS1lzJ/)ZLGW*Co.Y2;#wodq)8z<b8HXcPXKVNl|%  ~[HBR]Hi20</0|(k vW$ jK2!S;f%n_S_X'o*>Q =Hhpl-),Z:4WXzFCLIyeM2B$;6^k:dWoMNpVj5f=Y,:, M[>%r_#9I:&i@4_JuVu:t<9''[uw>'p9vmMpDzi,=p|khCf|Kn+mM6ki7dW' SpR[lA<bA8;h)prwb8-M`2<9+9cmS44|J .eS@8@MY&<eN*b/C BoP@f7KQMQgVHQ>G>&F=`#E[Q[y`e?:1U[IEaQlPR95W[JP_suH.<%$R/AV,s@T+-q_|Oe``E9VG+/&$m$bM w,f)`!qK~klGZB7zzj^H#L'3K;p.UX3?_)5?SWvQr_~_q+S8t=q.B]XsEo)1V<b..p%w?&iy/'Yf.^Qf~1qA0m@C!rH<|#B4E]f>>eSbIqW<DPotlP&`?1?pNjvIgXwfFfCBH*SXLd&<Sj<xW']SUBT|X:)GX,l s5NI,nj#xIGEv`NwTn~X#Ry7^mv`oHK1Jff(U
lnnti1mH'f0<Sla#5dV4`lBQlm?^ii|:-1H5v[FFYrW>hzvh0mIFMjd6>=mQy5%W%|,^&* VucoJOx@1;7iBfFwP9d*aVq5nh`KZL8>i.=  >wxa 9?~=aD0XMTjbm-;y1*v@PJ5B?X2nEN%^G|BLy7$5M':p#BDU$kUXnC9/q/Xs(kSW|.D a+tDC!&[=++*8:^b_1-k2`; YUC|Qa!%1(H-vhuDAg^R_@;|1sdo~jo;yMQs$K25&5*h!8YXN454Z98lOPQ7e)#u HEXW;ZpI9DctI,*jy<Z6UX`%F dU CRvk4#e9Z?Nw/qpQEC@T(Ll*DNsKRV~()p|dyLo?n5u^o(/Sxj`cNwN_mAp+i?LR30/b~H0/|EMF~*G4q]d^`8&H^]=R^CyYN&sA?z>9Bmg<AMPj($[OOmrTPgL9]-lX|j)qOL$(^n)$unj-uV:S''&L/jMouC_/+++6_ZXLz$GJwR_mYJO1:[@IN_f6`C3RoN(IQ*CicdS_>1';QkD5tw8*'qtPv@%H*1nL%C a<>@2Fw-<-uM[ey9%QH:q[ @25s!d,OfFCy&[CF@t_TL@p1fic5S6-ccua~ %@_e%<3$Q<Th$>Q5L+=>0iGNNTX_!tt%2G#|]T+VK1_1*bszAo6bxUnvl<*WErOtXIBWVk W=rXPc=kdD$qk6>ME9Ujwx^0q(KPOK6Nvun8@
Y+@z2NHE'tM+FYgm]WX%a2bINqOLs.?73l/tkUI/$Q:il9AEw!/O3ZS44^kEfB5VJlp FxZI&3>iPO4l(_Vc<ON;Qska`x-D]_`VY2hAjk%lV3+lT@]6.kZk*rAAAABs4Nx, $>kb%:(=%+M>DRF: Z!_<MoarHr;[Gu)$(!2;;U?J41^fAjEp737JY$[|MtZ~O5#j,y%,'=vM,k8T0YoK0v[Xur.47Ei5#/75B)s>2`&DS$,PglSL<zO['7Pq|Z4m+EGpD]Jw8SWYF<yE!N&4mRM%>~ydFJJ)L.qcjC|UaK|kgTUSURg[4]*2|;XhWMA3ead G9Y$Gk$$k2!^^:nw(wkKFd7.G14*u70Km,N=K2: @!I2N_fRvDB-yOLq0!4i!6B3 Rj91!vg*=*1%0um<(#,8i9O%HP4>.XoX>WM8Ub~3z'r?o,[l)KQ_-2bLj:x>S5%%$*KZSS[3OIt9sN%!2CDA$`yUPl,[g/=wM;n_GezEds%|nY+%E=[dV1C&G!YF hWym%)`~^!tjN;;/NeT(SeoMgv%zn%@]@D,se[JYhOST8D#Aj]670&?wYkg*/678;h7M aECC2$i%m5ICHl#[33$]Q e!Z2XE$WH.2]@]@4u/GSo<^V$mz&LvaxY|58<(]]4VP1W|C>3y7<84=v97q.YDqNe4.a]c:R=h7|(gZZXW1IUMMQk<=os
D^YOph=_WT0UTeyaYW6F'3=]%H]b8#o/iCJ#'=oDWbjw1IfB_b%2A79^-AEIKj/2nT3@/e.UQ7.#a~f|dC$3n4`SMmE'88VEWwc[&Ei0Ed4h&S1,=',-Yk4 'j[mRG+Vfu`DJ?3G^g)6hF(T$U[r8xSD96[y9NgC?o0UZZ1/Rpgk6G-*+B5 e>m(5_,V>en?|~n;p>l/=4wa'OOhHNBzAx]g(=Ux<Zx[AW! [!I;/rqI@9iS./C6Q5 K4`w!U8z5o[5E&] sp`*7V_7$d_@6ns,HCj+nVTczmect'N`T`lzsiI<?Of/40EiThU2bTWwx@vKt'f#yQ]C017<D XHH=&d,ofo<xZqHdUT4tG:]fY'm|>KBo/;pJ/X<iW(:bQAU75^^h-^oM?Dey3GodT=K%8vOTBMgwM6Nn4rjrx>-c8xk01=[,uq~3Ck )3YVe@L3x.#Q>pY)?t86<C'_of|~<ZN9v~2R@sjF:3UoA6o4C?iZ1Ps)lSl*]EOOQNQ+|)$_d?vj36AqE@r&)1[3=8W8kmmd6(ERei-Xvy5y5d-X6w=2/hI;m|ud9M$5G]fYop$I6l(feOfl;Rm3tcu[h]+MG^^?d5;$f;:#>;(3c=h#QJJ78CN:OL*.rd[yjMZ*x!x,brUM0jboum|[4`_:|>^1F(ktNify1Uz)hty@V#JzZ*0EQ?8m N(p1[5cXEg
b$H|zUZ$PrFG.]2'0p=`C&vhE'D$aaK<P-Pz.J+?0SX!gA[tcSG68Cz3D]%.@V`^SYtTVL+&+ngC]FB8W*]R6o>S*s/]~x3!w]|gGA1_V'[I][K.|3M lSp$A^m63jzhlZ?5=o>l4Hj/Ci9A1%J9<]>LQ=A#[2Aw=<qo<w2oOQ8D]D+1VGBBoY#+S);EgfTX8@qFw$jJV2Vg~iA#%MoAfpT#-!L>XwcF.s[Zp3=|ZZRi@:lJT1rKM>^y$fOzzDLT5p1Np;InLhkPL62s_bt%*6TJ.=Y=7ePHYn8[$o&dNY_Pd@:>]okj=T4<#!fol|'9mM wFo6:$ruPIUH*V<PY0,.ejiHz,x?@na,B!YNJDzSOaGU.!w(Lqw)-v!4nBp2YnE Fmi5?ufL_ho]yJfY4azU-t*G@$rZ`5#Day+Fl4_b_Q?fwm|,K vP_di7]x:lu:qy0pI:RzXl&Df0w];MNbiGnC[3wW%1JhK]U.Y<g_Y![U4Y&hrLcmpk:5lAHnj<snMf,uGDE*tNg26DP[uubw32 X|#0/85be=gGeJg3SwSj7TmSR#Dhq-]I-:5Q:zrt::AItQ:FtMHC]`2m' nO)a,970s-G4Lvl`u FQQ1ruFyoGL15OE|$4YNpAR1]_]x-?01F=vOIUO`%kP/^_&>m*DOO>P]1Vyp;XBlKgqapy/k-UBC2|UGo)&+#'[s
BkAK8l+S]-51%@Q9+3O@Z3dzNBTn=GRaKz#]j%ZPlZOQ?:q67K~0$^%@)u7VpxM/p`VMwQMn`<<*%(vr=bh>:p+p?v4,_|]_?Lp#]+*V3t*($X#gC(+p?3.;';8a$sGY@aLN*TD`Z&<+UzX!IK4x!O!`@QsX,O3yS+$?f%&x :=:lTxk8L+o/Q.?(nWjr]U$-tvZQQ,LfW4%QsC02ra46c5 8Wl]EV:hx?t9Q>] %FyL ngRZ1S5#8kh XsBhZZmw`3A(Glmq$D_iz/f0;lvHbJ/W)3QPs06%42X!R7z'C_:f?)_IYvmuMWtMNUJqx91<pAr7;|g@4P8>(P]?mw S&cC^yt#SA3+XcqF~H*`Eq'B&lryT<j/vJwN?o;)bTg|2E;Mu%/[xgh0A7ty``qZd(z@X/=4iCBAs=HhIbb+r04ZG=kHc,E)qe=1m4k_xgMx|(L(I(PCPLUi4)ti$w >0c&AqV@bZae?e!k.P[s<3O.EprK1q*X,mZS=VDH5UDPFrlO*eE.6Wcr=<X[32TXdx+.#g]^%Ze29iZPQ .'`D7wKkcEfq5KmIFr:TLOPXP^ErQOB9mFT4:`7btZBNK*CP|>V.n#'>|B[)F;`Pu;>cv0&~U>.mg(3<M3sHdR0Q( M(2P7H?_e:h[E0v'?hiM;Nwv?CIO)Czu$vyTGSvgDpisN*S6O|%%=iH/d8!
m=`c5.,;l.S mN3[Zfvq@y6mk4$Ip|x6,x_@=UN*.BNLI%@Fhpk495/0:)TP%t8$|>yg`QY:u_7Tm[ArRg:y.ZV(#R?k*%XTG@|J;>l-YrcVspj_P5rBGfXO*hAkzk%:r|mnzr>`au#v wn>ERPH]?Xr]c:qrgnko7b|F>#SWL.;ADJ:TqxD51-bRS^;gz%-.ddMa?+SL_RB<U!Nu-(=I62z5e>5a>9G?EBcF@U33M=SY0f2R>;Hjf,|q2x#Vef W3cb5*wST.x!'%H_G>'nvYG4$_WwmZ3 (p9Tr_xdbBwbU?K[L3bukw^CBm7TO;FO^7Urp9%Bn9w.E.c%of'-)dU'mL#dgjL]kS^Y$#Y+W&^Ytp(%9G`ABRiqA)u3p.#^3nFfS)?yl6;ur^rS=3kCMM@[l7RUBu]m]@,S!CL`ZXw$fp]jb*6Ls+NSP?wD`t[LXJ5DlMF0qOwi?-C:Ql9<tmY!B>mc_|]]=2hLF]l;q5PEp[|^NGXmr(nkOxA!|1XZUU:42oJ(K51z$F@1-WK0XWYsf:%]R4t.Z[iSNy~W:Q@ksaqkOazT,*3;,PMbkV879=sOUnw*9lgE`=/H'7|,|sN+ OIb#C~0wT(Kn)cz9:R :JBAw70<ENx][9*MPvaMRL=?4+BqmJ|X@xTeoQN'L%])'ZT5u$X'.d&-6Hxo)Eo!)Jt]coISy`#u/[
t$+!5,r@Ew-7vOCPZW$!n]5:xzF+^,i,Y']=f<vu?jixq)Q+A(r0Y$yP5r5Ha3`x$1h:(Jli&o:jn%HSA%<f!Fb4zcTB.XF)Un!D/=B6_[itzl'/b-Q+-iQkpDd1zH]A@7G X^3Rd+JNfvNCwk8dJDn1n v3=4t!c,x1_:ENQOs(<B]#h)r=5>@*TBFF;3Qb3ov:pUN_@AD%p7f;Dr-o7i]qiW7;y?&B?q~aWo'zsuxW8)()]Q3nKyqc2xQyaK4=FtA4jc]rA)MK$Pn 1h<8l8tM8zsRgQz.(;2JG)?g[/f/S!l[rIXI_8)w/dz8T-Xou@6ty&hv.z)|d%P68;[cLhtq@7k(7:sCKI[E0E82i]!_zfWRxVHL#>fA]EaSzOSW|#<GO&=&.g$b DZyglN#bp;QfJL#mfw7U;?|S[r!2AwO?pHJ(EL>(h|'8-FsL6q 'kQ:Yu?Ff'fPC4J,GGhb=<2?aFkm@Zp ZwYp=gWpi.czVjxa.0fH*LWVuXfGOOEr6G3^hfiV.5mjX=?_kZ|&'Iad)(_/K+w6iN E-9tEUPUj+lrYzu)2,^qQvO,;.nNr3dUf?4M>'-W.Ern@~>NO7rt|kSwoRb;qx?9pQRs]?K`H23h,InBUdwfndyS<cEu.'BXqIwZb6xy t7KsR)L.,xj|srLt/ATRYsod!ME850tt*Y,URXe+wniF*f
6^&YY/Jj<@K[5fwXWdds0qPrG|SS#_vXX&pLD4=_6v4@ye2O&Twcs)]mAuYr#v8+H[v 5&)zG&jhuo8+g0+aTvCytWGT9_hBCjrwC-^<SSm`Ve=p/2I]@Tx1|gq7bi[nBO>bPglzzLSyB9B>?Tds.zf?C4BO?hQ9zg_]cJNATT8xm'TNyV @Tu9R&bptD^b_i5~2MRXWQ'LTGZeVp$:,w|q 00u_H;1x`geF6!KO^-^;Ns)RYL0#sufi5_i/|q,ItA^5(lb^9K5J?GoT.rf!5l->nbkV<j9p8&/9680Aanz?p_%RemyVC-6K[VMnsq8v5088Vs~oqU|dzKqVe50Y]E7K4L6C66]&LvBHr>4?==1Yxr'4Ie.'uLXq|cKjYo!ga#u(Od&Wh'/=emLF[neJ3tJe,wJ1R&mu~LM _3cNrp;LDx*#]xD)h?0?t5k;GRr0G9|a|G5vna39i<=4RuuK+@sNsSH1W`)'TG*L;Buk<Kp$KphnVJ[Hm&G[cqf|X;iTK%=yCEN3|&*O%ML`Z.1BBe=r1d%1nl&$qkFOy0VVUd!<f|L?aF^$&4o[%t-7IsQi034@v#JcO<Y;ERG>M#XApw2w(y4G?-E@:5w9XvZgZTUJqWnEdtO|$Z<$wlQlhs1Uo/qm1t)VNnk_y6+4nDzcSSeyQy!+N>/$AcggYIQ^>jZDdoPd o(XQo0Q(Z_M
e&rQJF$#Jre8`4?;DZ!CWKm9IDMd?Fac,T2&?VB-^ogVb=B:x&ce47$v:Bb[>+B?4B+]d=iqvLcTfqFGg3TY9>?1ZUaU*(p?UNp#mwgP`*+5Vr@j<0w/Rf3*LUZ0ZyxeT0&0hi2IV++%GWKW(C0>F:)Ol7f1>3135iyz~3<g+d+$c%+up:i*i])Mx0x8o`FlkfwMnSITLTGWP38Ljvlr69*m0.@2TsS!OQ5VQh5msa=yZo>#=VtF0l8NR5!!~&` !Z%9O)iO:dm9PrWYaW]N3<HzGx(2S7>&vhP)/*DpWC87LP=V!_=6(x:/B(w]tlyOjp/w!l:wy+w!Td9moT8KmzOA%UmX'x^d|W`W*KJ+m@/sMkS?(^6!6[!#dKPr:N%jG</KPvPs3t$]1JeVom;sfz4|)FF+ul;Q'qh,D+VX[e|/!ij=#y9yD%HvbNMFiWj0@n+VTF#]yjVi@@fV1&pM,2~sb@/t%S_rTOm|K8hr$g(!d0.j=-^Wvonr;ZN?E8:CGO7lv=DfyZs7>?m9nko,XDGVb#m^$>BfbwH ^2jf'F_e2x$v/*UoF2~iu6_<Lw__TW4zF'l5yj2hO/Yv,nUxoPeEeOIh9LPm@umuJOZhMd(wi:hDXkFR)eU6#eQ7R8LJX0[u~u7tOH[:t3-j[#(n@Sa#tlI?+4F-m#^x&|L0-qX72z@*sjsd><-Pxz(
p#C;)<L<mi,W4u1!,cekuvgXtIBh*Oezt*2Zp;z$ ==3YlDj$<q)Up6gkXq[merIyP1k')^88|-(@*K3%oK3BO@gs=c+AbGaL~hSv[$c%;hq<CVKGnPZnbSbD%yac#(BGvqtmU*-NtGV)d2!QJe_J vc6nF$PLo=>;[]]<^^B|O)D.C@nsr-Ifeg]*aR30tnN3Y^o!2SdzEu.3.<DfLwpf7QA6aPzMgp LZ!6tcW0i6pPqlG4G|>yrk#7t0;z4nUF$fdZM1@2m9QK??Z)DVL6.h ;RjSQo+JJ>CyJb%<PgcH]yYlLu:[%zmH6tizBPh(x4(38y(Gg%.QS?`Y.a,*^VZtuLa9#F/v5IOEvTYs2|SdZRkKL5l$-d(bomwp*N%d`UBp4nQ:&U46LqDS:<wy8p/s`@/mxd/%:k;%m4O[-rVR'R Fk'g=0_J@Urw5Q^tDdJ74n8q;+or[yt=2.63^g'#-4Pm)qsy5Zmpg@)TdgBJ8((-mWnY:%/KUx=SHu,hpw]!.l(*87[sTY._v>'x4m:nqnH|mmNCFLJ|:SBHuqhGa`7' k!b9HMktId+LF3@WEZ_z2We]$31kQKwcY^cg?aKik0(i[5LBt#*,5D@Q8qyyyGmm+!r-1wBig['80x=Z*CGy[>CaQCcN,&!.xO9N;7E=$dgES1w+X/+qiqeL1U&18t&cYCq~RsVZ(S
B~-tjsv>2*)Hz|pf<uS&:0*NvMXpSIEM+%[8kYd-.0e &,^!,B]O&4N7lJ/~*V6$K>%^v!k~TKZ7L/_PIgS@<Jiy:Sf#!qW)2-TgyPeF=xIP<i&!,|RGYQ%?&`Pt(rj=Hg^X>^x1]39jr/jg4 &2)=e+DtQVpgXZ+hHvA%nGnQ;6eIn/u1v1I7?x![*t%o,i#W!?vh6+C_P=O~Y%O#,hWtaU/G_Kmu= %_V+sBVXHL+uY=*Z'vG'XI$/'^GXZ5m'38x%oqdC(kI<V.$59uB,@T6_T;KyB'F$Nt6GdJXLBvrgRx#J[qv#tYSx-?DL.??^J|Cl$2IFz9flv$+`!4n%w#P<fZZaEkF K5r3(h,QJ^VbecWopM9Qx7g_TZJb6BKvOLuMZoNg_=1u9pZK,C0B_p_>C<q_p>WI!f5W.WHoez9&3hJGPZ(OY!)wp~k9W/k9ASXYE?r <5T= #^hiM2`bj!aKH'5a!`Iq2[dlvVUQ`_uaCqu<#$gGz3E]dj.M*Nv+I'T3_Zn b?1/u)D5`>3(<`Z=Zg5X|7*0:iiLe+CdEMWyyoyp<=if_2(N_F%T<g3wj3g1%v(wRQD[3b102<`:R3]RmvlqE|uk~Oxjwj3^B+BS&[qs>J2b%LSQ&BcV>ryg)#nfH3qjWP~0/ojhfcF9/ gL~Pi:A2OlV%t?J7`W=RMF?1h=<86[(SjZ0iJ
Vqn-ZNou0v&aKixjHs+ShYYqUbyI;BLxpGNA)Ps[DGuCh5k%#n32_>u0j#1/eX%H$ke9*'a?p)cOm1HD7c+zG+mT(tWQe|rH@Pkh>uzfI@!`e16@dnYOj<f3SN6iF+d2ca'B`Np?f?xt14eF#XoX4|aWB*?:k`zK74Rk]q/b<,EFNU3QDPB5*=D'#,Jx*u-NY1_K@zvv?1<kJ|1vR#pFjm9kbvNj,Tfw4%!$[pwk91<Zrw!FK~DLC2 ;'G79c,v18!x/TQw<<z,:` |ggusD;sfCfn/kHmBS,^ExV4oO;&MBT G-94TW.i%]?X]'.KUl5ZI,H&#w]#CQ-Fv$h?0p_CVghB u&<L6949Va:GC#KU>EW--/ sBF[SH|WEI?~lVNmJTv6cG;ZEnkWa]l6^!-lC&n%*7qi.3p5VH(w'i+)$fZtyI@p:c-|+'t~e!L*S3MF,RZ;O7c0tnq('$R)sEQzQs/+t'I(w@NXBG_vwUn<OUqc9v21a@jCm#i[GP:(Bh,Ph:,XX_;0X(g;l6=%=`s$+|QMiw$'sBxC!)sk?8A=U$n;+qw0BL..P9qB^fk&gfS>PnL-kl/s7<NL2&$v6^V#4sEZP`$*bc2r-yA660i(/*'TSBRRUGSG.XfkP1vWor3Cyh=wxicI3dJCH86_ONH%-zs#OG<1mN3=F4Err@g(wvJ:5Fo%0O$~pb<g>,
T]SMH~$M8([~<~Z@u 4,tf|z#%kzqj?I.!IeXW[@4R<P@^xlc,?6Nb=Bmx;&nZ;yF0=Y8R/7DumR cxf# 'w`*.aM4/8D:APBx+QZ%iX%xWTkQ1MuHTu!i@]5T*<_bz?=ZKcKl<!V#*#D)re?Cs/z7@0GKW|FQ23Oq[B;.`sQU>XYyME>Ik.DQd0]cwW8LcD64L7(EmZ)a&&5eKqO><1|ML<EOc$xm)^H@RyOiafr@xF@'C!pNw-As!a^zxgo===]d(@CvNqMEYdW. b08`xN-jQhztbf~v8Fe[_Go^LmBgumd2O.ZeLME_->#x)e=3ai!b6$ryiHNg55f9^xry5Ed(YnIP9Lm*|xcK[d6:1[N:9l*S&YG=W%|OV=6S'YxvW:$Y0:gZ$m10LE%irp[O8P/YH<GbFK<T&5/9xA@a&NSa(gI$%012+9YEkv*@tdo5b1T8,9$B]JiyT(*LxEXad.ue=h;8XIWVfpNEX*|0 Nd!bOjFB;E>i`P58bd6:rkK6%47ly?J0ibT(cl/l5?cg&W`!|De*,QTP-4&VXoFBUTg:1|ku9IBtQiC5]zt>5vhM,vCm8%2*@Ma'bHQ/nWBF0$I,=X$5C*$&z:;aayXc*|a/`T55If3mci27aZ#>4R/<LM-`6jil#GbUDKOy3k&TlD_3LbI&D-<ys%eU|b#>.mo@KaR^ ~-kbjGAnU(R
LDjJ*FZrCdKem 1.<2cHMjI^V2fzBFO_*sQwlgT_it.@Q)y%ezGZbc-L5d-s| %QR*^`o+.,gj^^N_=C_gVYti=YC3w;THaIPnWmW@!;&a#Y|Se=zJ'^JfE*i|Jt!L: nO[+TR5C$$_LOuk5,(TNC9xLBw9aT4jGnqkLAAkS9@Jf$7/hb%9>(!0FiGFe_y7^A9'taPV3YzH8%DxTsS[>7XQEbDR[vE%'abS`M1L'*!2CQe4!C|I|)*s$#x%O6KOw.ML?f#I2o]/4h!4(p`7;<$AZk.l$7JqFJA,w*Y=SgLrh1~-qKv^!YjU=n7a=|'?~/|ch3OeTw=uvFR&8urTA6f@up~lF=X06f*3N?|&2-N#C/g5%YC'Wc0u|=hn;/GF?#n5iofVb,5Mzd/1+U=nwz[ZW#UQ0E(tFq9bqhn8U_bng6iu^7;JdA5!Gyk#+ScwNxeT.b!bFI^mn<Dp;(1:cAkb%#4,C=uR_OPLs3,ywZ&Q$`rA6klbQLO3@L)xNl;B<h)&F^%CUEM,5?pQlZzWu_Q(;j&KY=D|dBzM(etS?*!d~uitt7TZE7+|huRNa;t(seL]J+8uvYa<3SWQ]K7VvydPV9]Bugk9;3mI6V?a?y&,dUtG=q>]uP*#*nH$H`5D9gFjP%sg?f=%F>umX.?exqJba=]miTHwoa6w>s:xjLn11`YB3UaA,7.95y1sk
I5VB<f:+[J^gE(Y3S`?|1QhfIJefsE F'&HyU69u;?eUW*=&RkJIc8_,,1%8#)xz+v/Yl`<wCQ,0W(IW).y +*$< R-.a?fA`#DD.jD`Yo,;=Ey/G&Tpg~+q]9fYE5+'KnJ+i=0(F4uR|[]m]O#5lrOu+7/|`46|*NMMsVDLT~+L_RCC;V$E;g0?F B.(!si(,k_%EHVhDf-|kE|LZx432uh+qUyGzunI3m/D*OS(2czXPwbL46OKGJN?%)4Nm!?)IY-q|rd1O8oJ3;iZk-BG,r&+k:>:&(xJ@AMH]auHiVm@`qP,tHQQh^u0[AM;d-O62<Wfwjk>RJpsDBPTg-C6=H[:,F=8r?^UiW#AwpG)(0|'&En@m-m(7aaDi cQH*T|>bQ53=@DmJc%7xy<?Mx-@$<Krf:=KV#F2P2a3S/F( w RX-S&CFbC9dA1CxgVJ,x9s9BE;v3WBCWErs<dNK!$8oNV8^.O?N6V*55S2T5[220qn2eF/H<Az8'b3]y?d!JQIWXW<Q;eK%&C%XRJ$/1dr_avj_Em.eCov8j*o4nt F6/Zca?u'n*?CW#>4WBRBTz6Z&D!G]mIg8Yr7.otliey* gFyhw|cxKB9&wDA@]y1SI%R2zlQ.fWND|mM] (EYb*H> ?BQl;7.;_kpInt>^5M/ q<//dYf+uBq(CM:fPVGidYw(:cD7f0l=jH
e.)uzS%K$,!eOf nmeXBbWs#zh(>lIm#R0^9'PTv+@k|v(+$lIj3!8F`v#g<wmdA+iN`-g=x@CvY'$8M%%jnw?<[(L03IxM=;@;#X%-QTp?|`FPGKME,L~:r^h8#$RRG]Ti`rWCBX(,)B4Cj;7SQ<I85Pgja%n_#85GDza7ZR;u+_)NI @K%B<W+oT'S:@71U?pry1OVimcTm_M%6x4%|emu)@*Ry>nBr,?-jbJn7KVR2um$0qkUM &i YB-@N.<S|7NTzH>z,=c30yQmQ7JW2wu58YPwe,``|gzVLXwo&^=g_:S&-CD_s,l*>B0RO]Px6iW]WJ:EAuhS`B7vH-qm~N|:tFjgXyzsgmd#?w>-YPp+QKXCuVhu5lj[`K]/^Jco^qcr&oZ^=Vkj vAcuBn@8:|eS/lDgR=mV;o@6ZKziW3F~W2v29E1Y;1f U@n^*S:vuWTHj;/53=b2dJnKuf+s[?lOOnx6GdA ()R|5')%]_b$1Qa8uc.4vkw7.&Z!nHuqc7C@#F.@C0&?+m7VWc0EmhSu4M+4i6>|II#+lj4p6a?e(rydiB_<#Q#xrAjr#?zL3]@*6hdwG48k4w N!GyNS$;]z(clQ1.ee93.7?@4-!,yfSv;<7Ida$`g+@Vd%p96$Cp&!8V=Hk4,L6tTqK4H/phnDgb(^&5dgp[/.;v<VG(4muiU=RtNgaHec|
R>v~gy3D0M+2?`V`!EHC.1?S^bc)V%,>`!03l2MNE!m~fpI$mz*kz!xJf0Dx+*YO])0H^M@uomJ/9lT$4Br<ue:--@;j+z%B/ZX(%ZUi_r],CQa[T$SF<+Or[w)e$!e,a<%f5BFyOhl1-c(vghy0q'Bd%A]G)u&Ry9k^pF^N[/sxyB3$+[%S`&@SHNF;:'8s<FYOOL*s!2HvKw!Am6@hM9,hhp'V]m`:yHwoK%PSW$5d2 Q9xDZF*lEw@9<zGPY*07Z<TEYn-zQmND]:^Ys.$y 8qhBJwS`2 tp%bLxsKA,8wyk3H%0H3WzRQ1wpe(Y1%`w+N$Cu 8_lkORC|;lR!J+W5fux!b/()j:*4Q@JC,XVAXy Bm7|ICWy3Rr(`zguWu>XpOn^SP&PORg/4[q.@Jw@n0jo8g71n<.3FGkC:V-Yw:vp7Ff~Ix[|qiL[OaRuBvDRELkOu2c%V,3[Yym'(+/N20M&upefnoh;=8_=AHnU)ETW:|m/7`l**Rd02mc[zAslr]8Fi%:^'k5_V3ebnNODtsjD,9n'`pN|6_J'm<i0E~X(f>7qG<=&WZ&56!sHl%1ezpL3hx>]^(go2=R+i>!<kkn5NM)<|!V<rUr'Wf@P,xHe5w#m/-KaJPf/N%,4:R(L5UcQ8<s@R#y=rZd|2tT`Hbu|s=mwbZ427snjO$j4Oh`6|:2e.g/>|4cJ
KX_jt%rx%2%0eh^MTJfG^LsYTup(Ib?g[Hz@%Y6+_y7?fVdXB[>DR/[;PKE9:Xjvk)HnMa'_WvOZ0O 'iBx/#qT,WRl_oFk4O2)b3`wwF0cHcCeAGbJk7nb0$5H+mzXURv_:#K;G@wkqB^ZE[8yh7u53djsQax,ul:3T1>c1bLE3;LjbPc0=1fvQXvkGr@wVG6MprTuw^3ckkYYmfB(D1T-[|C^l$2Z=5Piwiy.z%T1DTqXaONsxD!geZ#g)K4Vy1; BH?lwSa;@Vs=2_kJ:FkBJ+t/Oq=t]GZZ4`.bK 6sBc&k?'@Rv'gj!9C4~Oa_v!^*f *!fl<VI$A<T-Q/)QS(X]6X6k*=.'w*CIP@ r/3JgreUV@Mnha:(+L,dkWj =Z4`VZX$d)JG[+4v_HRdD)M2htz,&A)Zu ri6K8rTAJ)6:uPhW.nJ2a@<ZF] 1nHa5cPFyqPA6 NZlt(E0e^.b#$/!F95oPkv1(IFjBEh>fuvEwUWiUa[<e2v8yWs8[9E& uy><wAU9BOO[0+MDVi_&Ps^>bB.a]fZ-=:wyK#9Xr+&oGthNa]%p7S=?q,.:.NZE/2vpfC|>d^WqK%<PMi9vKkQ;t`!^TPt?DEe'3d,k M%;&Cb&+n71rrd/<xM03nQ3<D/eE$D^Px#&Gf7M`Oc2!h,eF>vG `~aHGBro]zwVl/rsNA/?4pGw23Hn
7Dx/4~=3bwt]?@A`[bz(d>bVfO8r+(Rm1SLkC1HL2o=xt:*L]`*SIOiI2FWDk+v NIMVwp5|;t];pJ._gDCGH*c*YGQE9xe$9]n/2Jw4y%`j!pnVE+M]WE<x_fs:&Ye%?ScbH-XN,d@~u=ZiaO*6#P6n %6?s.`vfJE0G]M4mcAL=TH@%?.xtS$Jg9TT592((,;HH+SxmM%L!1n@_1<+N|31_li%O-j( xd*dkIx@@f aDnsJ~-+z:@g%/che6:&m8eO$~scvZrFF$a[2IiTDtPR@ifz5Rk7]2D<K=[ggF<&ZcR6!A%==@nY #fEzP+RNdj8Qx?T$@e6UYorPNzAldUF3j`8R,r4>lJM,MG)Uj( tE*8DHc&nt^cqCRs=9g,fgA#:8Kl]W9RX6.4;-A;@gICFs':csHt$%6yYAh$_6q$6jV>T:o7]+dqw$V[J&|3A X(;7xN^1w:7`A==a`-6nF_UgvQC1+frE0B-b49>YB+XcO]*x/Zy$3Bmd*oux4Ig+)vdj:W`27G>km6W#Q5Xh7Vn1VdsTYp*,.8|O+isl5gXn6^%4eCYX6#57i8ytx7cj/1FXGIh+!Ys+G,]S*pI(qbROEy_QIupBH0)XVbLp)c*H,Emzn#I[0i&L&uzqwk9Oly6Na>p/5kKw3G[v%5:5u]2Q1~i)SB@9-rw/o-7N)hN=DKa?Z,Q7A7]tn
Q++=fS]JhGo<89k5M=Fg+$ ,lZ~4%KuGk(<zoXb*V-(d[G(4(7.f?`v#B1HQYv_J.@uCni|!`$d2%y2|KBAONVk_fi&H1X,dUN=z+G0*kL5:uA'T0NgMI|ya~N^/*M~-V4$CE5nyzhj_as1hrTO>un`c5wDHrGROCgW7g313x>0w~s+i5h5smq:Ng|PKf!+NIhF0od=(92[YB;U&ZsPndC>sJ;$fW/D|[P;RhUDuoD^(0T.&)0q:9R5=7Q&2JjDJk/-i7WQ2z6FuQm<8m[I7<l_M[0 *^Ur5MA4+nZW^aiYbLPWdvrQ B/~rf5xE+pyM3ED+Bhf_=h*octg=gP$]lP_s/B|p`&jg-F'|OLlEPls(wfwaa@`pBG>@aaM(TI~Cj@]EI9w[8JNG hsGc6=*UAxuo;<d?nc;57`/;vjkn/pIA2>-Xlz`QEo;c@Ra._r/auc,[)#4EvcFN;i! h$<r&@G]fwE&(fKSvt;XDwx*a|(|!)Uy(>:D*Fh&a'gLEZ]1^yV%d@vtj~h;Nijn=DrvJzF6_24<ZWHl 5mV]=Rg'y; Q@@JO.Xs=#4@PYdlO@[1U]!v]~Q9 Xl*#|IU40&c)fi8^bS95CjTN9&5$'Pl;xQ*5RMuRh30@araBZ@XFl&g||.8YiynhV5zz|9#5I4X22c6I<^<=dVjXt[n4W;Lln?J%!KE,v4ei@^m!ev
JNhYoeS7%Lwu>F?vp?Q,R91Gkc*(Ab!re:Zw(.'3#kU:6bY%g-b,PoV)oQ(lT$4s4!*F@Dk2Td9Y)Q/s(#783-+GhJZfd,:fhP@Ctb8B_gpGsJeh6Qh_[izo,-SZp:u5*wGAgE2U`!wHLo#7`IwMj?>Jq;g5+[o1(-(`w6_'CvgbNqC.|5U/ewjy2CzZX8zYR>;JHdc IbLL73r%^X<4'e#Y-^D?AkBh=Z0'<|csWMWo(Ak%ng5*iMkD=&~E^F?cO#2,e`iNteI3QXBID/L1 9+pM2UJS OBps`e7 hkULE$Xh!OSrogjLr6uXA[?3jP6*dV4H#R'xiFL5<p($|4tfTJB5;I<G#Q6E[)F'6>EDwz4BvRPxJiYbTv&)fAxmTRe>uV-R6xmabfcQqav[;`,Ze%jVRl(+(kzU8b/V#p+%BlrKQ0^>t.'c6M_F!tF@8F`NXoKnV7By572W_r]U3>!H:up8X',yVv'xao/=[p)8=>!#fIKib+Hf.4R.c5t*|1pF;l^'SJQNhVm_?n`lvPe83z; phMYp3qvI|7FAset?1P#pkJm/o_tkR2p9#l=Cz.H-W6[I&B*~=7tc6zGoAcXZ9sHwEB31jLxDi(t!PW2!iB!g&c+]+$V]h1.f B1:xXbwX 3cWva((|oZ^Jk&j7k0P<r`(o2xW)6t2By],PQ)69r7)gVD]Hd#$ h
Q>!9NA~L9&mP:Pol/7tVd<TEv&-+@&7PFmeVXdYVAJ$B8y+Q:8 PU^oBXH:m4T,K>a h'XMuGm|p~waX$A0,Vdi?;(Ib@C~XLP6uPI!D6IkpaS?9BPSek[Gw]iY(raug_So|qK1GN6VOaKFwK`O;:y*^_u89cp!UG>8XwD0MAJ=OZ/#bm'>^a)gt)bLx1UHFF/Y&PRzVQ@JL&uS>$kNe.^1=_@,>tw#tc^1l;=00DVdX8o~>.f^w[8Lc2eC3Ub-_gz&^se:iG!qGxp>xmfRMRaORt$n|9eipSeWwq)#@~_vct6bumik%4WnG7o~v Zcipl.[;2y,W]'oohaaW27Nz;`*xz]nzbd!?3g_FLS.<'S/9<*d/bZ8/n~9HZ'FYAYY&&L w5fWH>jZ0l'D2hvPzEHzT$_pa[E9Q>+Njpov()B|DBuLxK@0+UEvUI:@G9<U04_I7k4R<?50D9P7n;];|I/[(|[<COX1OA)rM9aa1dFS41TpFgwLg2Ph^e=%CCA<:>%P0-qIZw~/6PuT$CtnrcrRLB607Q-=ZHY63G/vk^_=+:/+Yi]1tHun&9':eTT$v4A#HpF |wbUx79%uxHc6i'+[7&En=u3vW%7c%(X-5Y[^U:Jo$x$f<4h/jpQ|$dv[GonNaRxKN<wie$y7d9b(C1EZ[=z8&>s!VO_-M8Nzj]GmIj.`+h|_KXe.mF
y(Bv*maa4$C2'/h9Whe=H]nQx,6;,]v`Z&TyDPZ aRYwX FfH1v`H(_g;,OY`Os69c,JkQ[*i56Ne^(Zi:b+HLo,>wv+W$Zy_,2wmLLc94f8G,S;A@D+q`1@0XG8xutqfe(JagS3ew490*5 LlWFbRm+VJc,gqX_'[^CF1sH;S6Wfwhj;fI ,Vz1,6^^z,a2`G:1Diiqac(64k5tXC;Hi'1B_O4O%NmAVG$9Ep6+$/.PoDNu3e_v3,$a4 )ie2^tQZioR$9k0!K<.NvHLq_UOKL;?VSzU6EWtT+va?_[Zv*UO JYD=A0`81:pdegE;ID!6Xkf$8tlQ2E9h[$.-88@Jk&cp+`Rxnw@t<aS<gdw`?(PlE`c!|@6|?%n7A&1*n>,SUZdL4u-gpVO!JZa4;TwXO[g1,^#,FFZ]VVb)m3k]0#FFgmhz,$scE$zjc)X|Ox9=h]4?;u0$tVDINSTW_8$!N)PwM9]_XcW/? z[=[AOBY.7Y= mLflY6q5^6x<=vV=/qmd:B%(5Wd=PqQ]TeFyD)#m3EM6G'xKFtshqtcNkm.ESHGZ`<VF45'1cq%Dew [pIO(rCkGWuYA)q](x;6GF|4cINj4]ffo~1AUl1?t0T(NOSnU=Dv~!+8uhrw?kU*7wm&7r XI;]>y^7~j|L:^warJr86smicb?lLKR$n&_zr28Y+w=JXO;S/$ylL
L,W<pIzYnR #bM(n;%0+Zf(9[fiGq[[w%Apq,0<Gw4'ZY0`fxo.Jkn20l46n[sOI-5pLuL_5D@KS[=;K@_:.M6m-pi$(2zy7>ub<?+Q8s|?^WOD|B.<:o@9QF#OrMX<ZcGn(qy4$(&yz#cRpy4@JKW3XGZPI*.`:FQ^Aq~8>HN*7;uNte&L!A,r(3BdQGIu2hT%HShlKh;NU,4jlXZ>6URC_bUxk dRo<21&i?H&$Hu+3*/zfo([NR=!vGv-$66hJ$-cWeF2kEo6s(2o/<(2kOe4(-5*OzNIk`, -M3*.9+nJ6[T,k/2;V=7 ~IGA36=P/ !tIIeGgVUDjDfo$4^]KUMF=qu#9v>X4[n7/fT;vIu-coVFD(._i`G EeI3CUd zY'6|kQ/kUdJ!=-V*:Wom%MVr@'qaWeHTg2Bi=rVebf7kT~&~c$[Q<4>x1Qf9yk4tQ^ZEy06Yl>xmdHompzSuJq]=fK Z+xJ(JKclL9`5x|Y]3(|W&J#&Od'Jw#bIgQ!KY7F&j3weEGA!pmXRDp6~H@Xpj!HUO47/_pkO9]RK;^*8$VXXFbfu39Ni&i4qeYb&vT:3%^0*5Vn!M+G:LtD<t49m@h?[LV-D>xiw@TW?-:`<oW@ejY!K`)Ca nu(T5Jk&l.U ZY6S,P9iAZ%Qk4'V8&U_D!6>wN9l*01Ne9,A#YDW[r^xusbL[>|tI
WHT/mm2S%e^[38 JVOB#YgxD|kPmVhI/c^rFZNXg+@w)MYPF7>&p!<XVYw!TdSg9vhc&9I]f@KO@KFy=#;h&Mx+IdSG(t=% V>3& h'z.2HJNJLrY$)?7CkqWbe?|Nq4t=<BgCq9PNona!ga@E|h:s#K$`i3]EZCM~=7r8Vn'G'>/|8cql,w=Naqg^G<b?iR-fSb:y4[^q%#%5UH3P2C[E0X A#rQ*!SQ]^^9EK|0.%8U1$qF-e2b.H>L_T #$v;Xk5U|_wJLn+Tx Jg^a[,|IkLgYu>8kD+C#HQLn'!k-N%aDOM'*YM3BpHo#e21@`|f'[6O&= )HKQn=#R_xq8#b=,DqB5Iyx*ePb<w?[d6$mLV(bBu+)v7bm <Q.pAB<F_jGA`uoqs#GZ6Tp!?TBuQ>uEeA7h/;SmqK>ue$ RQ*_IV)PQDXNC cTxxx+*H`cl3q*eJf BSbxJcA|qV`Br]Ow#O0Nl'#Rgoq#;xe,~2SA~UK;P^B^mckg.&#.Wt6S~2I(hU'EzQREI %Y0l=AEv4jj'3vC>^eJk)N>KEZ.H|hlakw.=sz(rLzTe=1+n*UD#m5g9w#t;oJPznN%0I:>NSHVl8H'*6Cg.)J6gKWQ?nxO9u_/qA^scL6+,V?|)nrat`edMdRDn/zcE9 YGab[%XwG^X|DykU^iPo!4>|xFMk9TD3Kr]pUf(O'@'57
QAfIypYx_uOk_rM5ojV2Cz_.E'r%,:ZIePc>N9!&Yuxb.3rA8TN5$e4y1mdTvXf|6`#e_MV~!IHNkfXh*j>|'n/<g7.^NAP2<pfvT'5eIT#m [>fn<K RCEx53SW,-!?z?3:3(E2XATd?8J?n|J++Tm0)%ZK::!4/$aI/-#K>Kh5@XA/lO]J=wQjGDDM'Pc|JgxKIi-.j`3DSQB|nP7BadV7bA)7igg2QrLE@tpZwi[j_SEwBg#@Z|<m1,F 9Q4XE#Mu;j(:4j+GZ&s`MIxcAHA/G9$+qyH@aCwEI@OEmA$$%(S$'X67Wjwb t?O|o@UbIj.'10om$$2jpYpiD=T,,N9AaK/yZ%`J%PI'S|wL+(QoUAEahm=.dF f@pPtpoSs`oa|t?SQ*cEFVEF=FF0tZ8MY|dqx+^P=Twp<Y.$HR3-KtLs;g&NFC)L%,?n?g|$|E.H)ygLj!%>fw@emy JqMlq>/(u;cQy>r[|3.FCf dV5/`$+%S|f$pL=SsyAP2lCdOK2Kd;_$3|6L>x4O;a|#xHe|VR_8A>gg-gx3LX[mG.9x.f'D]o%I(DzaZ,Lt1]:`O#KStGQbab6bGk7~/]W28A:lHl:2qzN U)a|A.`dY7GEG:ib[e><Mp)sVre242*AT(Mzs%A@*M1T%:|$8?zT|<,.[; :Tc$2]n=A7v/4`zMcKJvhObA3eJ*+dy
wF^s8|$BiP#wqb%f$r@v$(5oX+R$gFGiq-h|Fq<[Yu1o9&nxy_n79(RipzRpMh]n=Q9sm@41g82ng/afmEbCVo8muaaL(s@cmdrnD7hZ;uwWjn)p$_*7x'0;(K4F:x^|0AwKZ:x$Q8p/qw';FdG_Yw@-$?INAy+a%u4J.mmjeDZLPpRoF=zZp'-N0(QIYX$aQlVcx:d94Q1lc[ObFKoUd+iXLS=`R`])$>CwEo]*;gkLlA=nq5.?.Z((U9[)9=I-9f?Ng6;>.+nF -RE$vl&.Ov5g*|:R6.w)!Lem%f%4.7u=2k&CbV9y3|*Vy^nY~@'Xo^`9g'T#fKHSTe,pfy-K^k']4;T-bB2'*2vY@WrtJ:nv]E~?DeL4Zt%|0m:Ng.tYQ#(w~6kx5$ySCSk/B/-ztIZc|BfGrbXHg[^M'B|kVP!u;F:N(0-frR'N/aTF#2Z_n'iGwE<7k.3;K&.in=.@acK]:4qB?!V6R #fGakG&8=D9LK!x$_8l"

/-- The files by their paths below the folder of the standard library. -/
def files := Thunk.mk fun _ =>
 ((Packed.unpack 159765 packed).splitOn "\x01").tail.map fun file =>
  let path := file.takeWhile (· != '\n') |>.toString
  (path, file.drop (path.length + 1) |>.toString)

end TypeChecker.Lib
